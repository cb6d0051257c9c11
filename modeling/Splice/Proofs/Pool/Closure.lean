/-
  What a name denotes depends only on its superclass walk.

  Two lists of declarations are compared along the walk from one name (`SameWalk`): under every name
  the walk arrives at, they declare the same.  What else either of them declares, and in which
  order, makes no difference to where the walk goes (`Ends.congr`), nor to what the name denotes
  (`Linking.Denotes.congr`).  So pools linked from the two hold the same class under the name,
  whatever classes had to be built on the way to it (`Linking.Linked.get?_congr`).
-/
import Splice.Proofs.Pool.Image

namespace Splice

namespace Walk

open Linking (find?)

variable {decls decls' : List Declaration} {n x p : String} {d : Declaration}
  {ds es : List Declaration}

/-- The two lists declare the same under every name that the walk from `n` arrives at. -/
def SameWalk (decls decls' : List Declaration) (n : String) : Prop :=
  ∀ ds x, Passes decls n ds x → ∀ d : Declaration, d.name = x → (d ∈ decls ↔ d ∈ decls')

/-- Where no name is declared twice, the declaration of a name is the one that has the name. -/
theorem find?_eq_some_iff (hn : (decls.map Declaration.name).Nodup) :
    find? decls x = some d ↔ d ∈ decls ∧ d.name = x := by
  constructor
  · intro h
    exact ⟨find?_mem h, find?_name h⟩
  · rintro ⟨hd, rfl⟩
    exact find?_of_mem hn hd

theorem SameWalk.find?_eq (h : SameWalk decls decls' n) (hn : (decls.map Declaration.name).Nodup)
    (hn' : (decls'.map Declaration.name).Nodup) (hx : Passes decls n ds x) :
    find? decls x = find? decls' x := by
  refine Option.ext fun d => ?_
  rw [find?_eq_some_iff hn, find?_eq_some_iff hn']
  exact and_congr_left fun hd => h ds x hx d hd

/-- A walk that ends goes the same way over any list that declares the same on it. -/
theorem Ends.congr (h : Ends decls n es)
    (hf : ∀ ds x, Passes decls n ds x → find? decls x = find? decls' x) : Ends decls' n es := by
  induction h with
  | root hd hs => exact .root (hf [] _ .here ▸ hd) hs
  | up hd hp h ih =>
    exact .up (hf [] _ .here ▸ hd) hp (ih fun ds x hx => hf (_ :: ds) x (.up hd hp hx))

end Walk

namespace Linking

open Walk

variable {decls decls' : List Declaration} {n : String} {c : Lineage} {p q : Pool}

theorem Denotes.congr (h : Denotes decls n c)
    (hf : ∀ ds x, Passes decls n ds x → find? decls x = find? decls' x) : Denotes decls' n c := by
  obtain ⟨es, hes, hc⟩ := h
  exact ⟨es, hes.congr hf, hc⟩

/-- Pools linked from lists that declare the same on the walk from a name hold the same class under
    the name, if they hold one. -/
theorem Linked.get?_congr (hp : Linked decls p) (hq : Linked decls' q)
    (hf : ∀ ds x, Passes decls n ds x → find? decls x = find? decls' x) : p.get? n = q.get? n := by
  cases hc : p.get? n with
  | some c => exact (hq.get?_eq_some_iff.mpr ((hp.faithful n c hc).congr hf)).symm
  | none =>
    -- a name without a class is not declared in the one list, hence not in the other
    symm
    refine Option.eq_none_iff_forall_ne_some.mpr fun b hb => ?_
    obtain ⟨d, hd⟩ := (hq.faithful n b hb).exists_find?
    rw [← hf [] n .here] at hd
    obtain ⟨c, hc'⟩ := hp.complete d (find?_mem hd)
    rw [find?_name hd, hc] at hc'
    exact nomatch hc'

end Linking

end Splice
