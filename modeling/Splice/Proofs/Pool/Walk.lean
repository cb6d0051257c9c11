/-
  The superclass walk through a list of declarations.

  From a name the walk goes to the declaration of that name, from there to the name of its
  superclass, and so on.  Nothing is built and nothing is remembered: what is said here is what
  linking is measured against.

  1. **The walk** — `Passes decls n ds x`: from the name `n` the walk passes the declarations `ds`,
     in order, and arrives at the name `x`, which it has not looked up yet.  A walk can be cut at
     any declaration it passes (`Passes.split`) and two walks from one name are the same walk, one
     of them perhaps longer (`Passes.total`).

  2. **Three ways to go on** — `Ends decls n ds`: the walk passes `ds` and the last of them has no
     superclass.  `Strays decls n x`: it arrives at the name `x`, which is not declared.
     `Returns decls n x`: `x` is the first name that it meets twice.  The last two are the faults of
     a walk, each with its failure (`Fault`).

  3. **No two of them at once** — a walk that ends has no fault (`Ends.not_fault`), and a walk has
     at most one (`Fault.unique`).  That it always has one or ends is a matter of following it far
     enough, which is what linking does.

  A walk that ends passes no name twice (`Ends.nodup`); a name that a walk meets twice lies on a
  cycle, the name it set out from need not (`Returns.cycle`).
-/
import Splice.Pool.Linking
import Splice.Proofs.Pool.Lookup

namespace Splice.Walk

open Linking (find?)

variable {decls : List Declaration} {n x y : String} {d : Declaration}
  {as bs ds es : List Declaration}

/-! ## The walk -/

/-- From the name `n` the walk passes the declarations `ds`, in order, and arrives at `x`. -/
inductive Passes (decls : List Declaration) : String → List Declaration → String → Prop where
  | here {n : String} : Passes decls n [] n
  | up {n p x : String} {d : Declaration} {ds : List Declaration}
      (hd : find? decls n = some d) (hp : d.superclass = some p) (h : Passes decls p ds x) :
      Passes decls n (d :: ds) x

theorem find?_name (h : find? decls n = some d) : d.name = n := by
  simpa using List.find?_some h

theorem find?_mem (h : find? decls n = some d) : d ∈ decls := List.mem_of_find?_eq_some h

theorem find?_of_mem (hn : (decls.map Declaration.name).Nodup) (hd : d ∈ decls) :
    find? decls d.name = some d :=
  find?_of_nodup Declaration.name hn hd

/-- The cut: a walk that passes `d` is a walk to `d`'s name and a walk from there. -/
theorem Passes.split (h : Passes decls n (as ++ d :: bs) x) :
    Passes decls n as d.name ∧ Passes decls d.name (d :: bs) x := by
  induction as generalizing n with
  | nil =>
    cases h with
    | up hd hp h =>
      rw [find?_name hd]
      exact ⟨.here, .up hd hp h⟩
  | cons e as ih =>
    cases h with
    | up hd hp h =>
      obtain ⟨h₁, h₂⟩ := ih h
      exact ⟨.up hd hp h₁, h₂⟩

/-- Of two walks from one name one is the other gone further. -/
theorem Passes.total (h : Passes decls n as x) (k : Passes decls n bs y) :
    (∃ ds, bs = as ++ ds ∧ Passes decls x ds y) ∨ (∃ ds, as = bs ++ ds ∧ Passes decls y ds x) := by
  induction h generalizing bs with
  | here => exact .inl ⟨bs, rfl, k⟩
  | up hd hp h ih =>
    cases k with
    | here => exact .inr ⟨_, rfl, .up hd hp h⟩
    | up hd' hp' k =>
      obtain rfl : _ = _ := Option.some.inj (hd.symm.trans hd')
      obtain rfl : _ = _ := Option.some.inj (hp.symm.trans hp')
      rcases ih k with ⟨ds, rfl, h'⟩ | ⟨ds, rfl, h'⟩
      · exact .inl ⟨ds, rfl, h'⟩
      · exact .inr ⟨ds, rfl, h'⟩

/-- A walk does not leave a name that is not declared. -/
theorem Passes.stuck (h : Passes decls x ds y) (hx : find? decls x = none) : ds = [] ∧ y = x := by
  cases h with
  | here => exact ⟨rfl, rfl⟩
  | up hd _ _ => exact absurd (hx.symm.trans hd) nofun

/-! ## A walk that ends -/

/-- From the name `n` the walk passes `ds`, and the last of them has no superclass. -/
inductive Ends (decls : List Declaration) : String → List Declaration → Prop where
  | root {n : String} {d : Declaration} (hd : find? decls n = some d) (hs : d.superclass = none) :
      Ends decls n [d]
  | up {n p : String} {d : Declaration} {ds : List Declaration} (hd : find? decls n = some d)
      (hp : d.superclass = some p) (h : Ends decls p ds) : Ends decls n (d :: ds)

/-- What a walk that ends passes, it passes first of all under the name it sets out from. -/
theorem Ends.head (h : Ends decls n ds) : ∃ d es, ds = d :: es ∧ find? decls n = some d := by
  cases h with
  | root hd _ => exact ⟨_, [], rfl, hd⟩
  | up hd _ _ => exact ⟨_, _, rfl, hd⟩

theorem Ends.unique (h : Ends decls n ds) (k : Ends decls n es) : ds = es := by
  induction h generalizing es with
  | root hd hs =>
    cases k with
    | root hd' _ => rw [Option.some.inj (hd.symm.trans hd')]
    | up hd' hp' _ =>
      obtain rfl : _ = _ := Option.some.inj (hd.symm.trans hd')
      exact absurd (hs.symm.trans hp') nofun
  | up hd hp _ ih =>
    cases k with
    | root hd' hs' =>
      obtain rfl : _ = _ := Option.some.inj (hd.symm.trans hd')
      exact absurd (hs'.symm.trans hp) nofun
    | up hd' hp' k =>
      obtain rfl : _ = _ := Option.some.inj (hd.symm.trans hd')
      obtain rfl : _ = _ := Option.some.inj (hp.symm.trans hp')
      rw [ih k]

/-- A walk that ends, begun anywhere on the way, ends the same way. -/
theorem Ends.after (h : Ends decls n ds) (k : Passes decls n as x) :
    ∃ es, ds = as ++ es ∧ Ends decls x es := by
  induction k generalizing ds with
  | here => exact ⟨ds, rfl, h⟩
  | up hd hp _ ih =>
    cases h with
    | root hd' hs' =>
      obtain rfl : _ = _ := Option.some.inj (hd.symm.trans hd')
      exact absurd (hs'.symm.trans hp) nofun
    | up hd' hp' h =>
      obtain rfl : _ = _ := Option.some.inj (hd.symm.trans hd')
      obtain rfl : _ = _ := Option.some.inj (hp.symm.trans hp')
      obtain ⟨es, rfl, hx⟩ := ih h
      exact ⟨es, rfl, hx⟩

/-- The declarations before any on the way are passed on the way to it. -/
theorem Ends.cut (h : Ends decls n (as ++ d :: bs)) :
    Passes decls n as d.name ∧ Ends decls d.name (d :: bs) := by
  induction as generalizing n with
  | nil =>
    obtain ⟨e, es, he, hd⟩ := h.head
    obtain ⟨rfl, rfl⟩ : d = e ∧ bs = es := by simpa using he
    rw [find?_name hd]
    exact ⟨.here, h⟩
  | cons e as ih =>
    -- `h` is matched against `e :: (as ++ d :: bs)`, whose tail is not empty
    generalize hl : as ++ d :: bs = l at h
    rw [List.cons_append, hl] at h
    cases h with
    | root => exact absurd hl (by simp)
    | up hd hp h =>
      obtain ⟨h₁, h₂⟩ := ih (hl ▸ h)
      exact ⟨.up hd hp h₁, h₂⟩

/-- A walk that ends passes no name twice. -/
theorem Ends.nodup (h : Ends decls n ds) : (ds.map Declaration.name).Nodup := by
  induction h with
  | root => simp
  | @up n d p ds hd hp h ih =>
    rw [List.map_cons, List.nodup_cons]
    refine ⟨fun hm => ?_, ih⟩
    -- a second declaration of the name further on would begin the whole walk again
    obtain ⟨e, he, hen⟩ := List.mem_map.mp hm
    obtain ⟨as, bs, rfl⟩ := List.append_of_mem he
    have hcut : Ends decls n (e :: bs) := find?_name hd ▸ hen ▸ h.cut.2
    have hsame := congrArg List.length ((Ends.up hd hp h).unique hcut)
    simp only [List.length_cons, List.length_append] at hsame
    omega

/-- The walk from `n` comes to the declaration `d`. -/
def Reaches (decls : List Declaration) (n : String) (d : Declaration) : Prop :=
  ∃ ds x, Passes decls n ds x ∧ find? decls x = some d

/-- What a walk that ends passes is what it comes to. -/
theorem Ends.mem_iff_reaches (h : Ends decls n ds) : d ∈ ds ↔ Reaches decls n d := by
  constructor
  · intro hd
    obtain ⟨as, bs, rfl⟩ := List.append_of_mem hd
    obtain ⟨hp, hrest⟩ := h.cut
    obtain ⟨e, es, he, hfound⟩ := hrest.head
    obtain rfl : d = e := (List.cons.inj he).1
    exact ⟨as, d.name, hp, hfound⟩
  · rintro ⟨as, x, hp, hd⟩
    obtain ⟨es, rfl, hes⟩ := h.after hp
    obtain ⟨e, fs, rfl, he⟩ := hes.head
    obtain rfl : d = e := Option.some.inj (hd.symm.trans he)
    simp

/-! ## The faults of a walk -/

/-- The walk from `n` arrives at the name `x`, which is not declared. -/
def Strays (decls : List Declaration) (n x : String) : Prop :=
  ∃ ds, Passes decls n ds x ∧ find? decls x = none

/-- The first name that the walk from `n` meets twice is `x`. -/
def Returns (decls : List Declaration) (n x : String) : Prop :=
  ∃ ds, Passes decls n ds x ∧ (ds.map Declaration.name).Nodup ∧ x ∈ ds.map Declaration.name

/-- A name that a walk meets twice lies on a cycle. -/
theorem Returns.cycle (h : Returns decls n x) : ∃ d ds, Passes decls x (d :: ds) x := by
  obtain ⟨ds, hp, -, hx⟩ := h
  obtain ⟨d, hd, rfl⟩ := List.mem_map.mp hx
  obtain ⟨as, bs, rfl⟩ := List.append_of_mem hd
  exact ⟨d, bs, hp.split.2⟩

/-- Every name reached from a cycle is declared: the walk around the cycle goes through it. -/
theorem declared_of_cycle (hc : Passes decls y (d :: ds) y) {l : Nat}
    (h : Passes decls y as x) (hl : as.length ≤ l) : find? decls x ≠ none := by
  induction l generalizing as with
  | zero =>
    obtain rfl : as = [] := List.eq_nil_of_length_eq_zero (by omega)
    cases h
    cases hc with
    | up hd _ _ => exact fun hx => absurd (hx.symm.trans hd) nofun
  | succ l ih =>
    rcases h.total hc with ⟨es, hes, k⟩ | ⟨es, rfl, k⟩
    · intro hx
      obtain ⟨rfl, rfl⟩ := k.stuck hx
      cases hc with
      | up hd _ _ => exact absurd (hx.symm.trans hd) nofun
    · refine ih k ?_
      simp only [List.cons_append, List.length_cons, List.length_append] at hl
      omega

/-- A fault of the walk from a name, as the failure it is. -/
inductive Fault (decls : List Declaration) (n : String) : Failure → Prop where
  | strays {x : String} (h : Strays decls n x) : Fault decls n (.moduleNotFound x)
  | returns {x : String} (h : Returns decls n x) : Fault decls n (.inheritanceCycle x)

/-- A walk that ends has no fault. -/
theorem Ends.not_fault (h : Ends decls n ds) (e : Failure) : ¬ Fault decls n e := by
  rintro (⟨as, hp, hx⟩ | hr)
  · obtain ⟨es, -, hes⟩ := h.after hp
    obtain ⟨_, _, _, hd⟩ := hes.head
    exact absurd (hx.symm.trans hd) nofun
  · -- once around the cycle the walk would have as far to go as before
    obtain ⟨d, bs, hc⟩ := hr.cycle
    obtain ⟨as, hp, -, -⟩ := hr
    obtain ⟨es, -, hes⟩ := h.after hp
    obtain ⟨fs, rfl, hfs⟩ := hes.after hc
    have hsame := congrArg List.length (hes.unique hfs)
    simp only [List.length_cons, List.length_append] at hsame
    omega

theorem Strays.unique (h : Strays decls n x) (k : Strays decls n y) : x = y := by
  obtain ⟨as, ha, hx⟩ := h
  obtain ⟨bs, hb, hy⟩ := k
  rcases ha.total hb with ⟨ds, -, hds⟩ | ⟨ds, -, hds⟩
  · exact (hds.stuck hx).2.symm
  · exact (hds.stuck hy).2

/-- The walk as far as the first return is not a part of the walk to another first return. -/
theorem eq_of_walks_on (hx : x ∈ as.map Declaration.name)
    (hn : ((as ++ ds).map Declaration.name).Nodup) (h : Passes decls x ds y) : x = y := by
  cases h with
  | here => rfl
  | up hd _ _ =>
    rw [List.map_append, List.nodup_append] at hn
    exact absurd (find?_name hd).symm (hn.2.2 _ hx _ (by simp))

theorem Returns.unique (h : Returns decls n x) (k : Returns decls n y) : x = y := by
  obtain ⟨as, ha, hna, hx⟩ := h
  obtain ⟨bs, hb, hnb, hy⟩ := k
  rcases ha.total hb with ⟨ds, rfl, hds⟩ | ⟨ds, rfl, hds⟩
  · exact eq_of_walks_on hx hnb hds
  · exact (eq_of_walks_on hy hna hds).symm

theorem Strays.not_returns (h : Strays decls n x) : ¬ Returns decls n y := by
  intro k
  obtain ⟨d, es, hc⟩ := k.cycle
  obtain ⟨as, ha, hx⟩ := h
  obtain ⟨bs, hb, -, -⟩ := k
  rcases ha.total hb with ⟨ds, -, hds⟩ | ⟨ds, -, hds⟩
  · obtain ⟨-, rfl⟩ := hds.stuck hx
    exact declared_of_cycle hc .here (Nat.le_refl _) hx
  · exact declared_of_cycle hc hds (Nat.le_refl _) hx

/-- A walk has at most one fault. -/
theorem Fault.unique {e f : Failure} (h : Fault decls n e) (k : Fault decls n f) : e = f := by
  cases h with
  | strays h =>
    cases k with
    | strays k => rw [h.unique k]
    | returns k => exact absurd k h.not_returns
  | returns h =>
    cases k with
    | strays k => exact absurd h k.not_returns
    | returns k => rw [h.unique k]

end Splice.Walk
