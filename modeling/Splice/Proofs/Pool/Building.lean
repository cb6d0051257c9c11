/-
  Building one class: what a call of `Linking.build` can do, and what it keeps.

  1. **Every way a call can go** — `Built decls n s c t` has one case for each way in which the call
     for the name `n` in the state `s` gives the class `c` and the state `t`; `Fails decls n s e`
     one for each way in which it fails with `e`.  `build_cases` says that a call goes one of these
     ways.  Everything below is by induction on the two relations.

  2. **What a name denotes** — `Denotes decls n c`: layer by layer, the chain of `c` is the walk
     from `n` to its end.  No cache occurs in it, and a name denotes at most one class.

  3. **The cache is faithful** — every class that is kept is the one its name denotes
     (`Faithful`), and a call that succeeds gives the class its name denotes and keeps the cache
     faithful (`Built.denotes`).  This is why a hit in the cache may stand for the walk it saves.

  4. **The names under way are the walk so far** — a call that succeeds leaves them as it found them
     (`Built.visiting_eq`), so that a call made from outside is made with none.  A call that fails
     walks on from its name over declarations that are not under way, each once, to a name that is
     not declared, or to one that it has passed or that is under way (`Fails.walk`).
-/
import Mathlib.Data.List.Nodup
import Splice.Proofs.Pool.Walk

namespace Splice

/-! ## Layers -/

/-- The layer that a declaration contributes to the chain of every class below it. -/
def Declaration.layer (d : Declaration) : Layer := ⟨d.name, d.methods.map (·.declaredOn d.name)⟩

@[simp] theorem Declaration.name_layer (d : Declaration) : d.layer.name = d.name := rfl

theorem Lineage.eq_of_chain_eq {b c : Lineage} (h : b.chain = c.chain) : b = c := by
  obtain ⟨_, _⟩ := b
  obtain ⟨_, _⟩ := c
  obtain ⟨rfl, rfl⟩ := List.cons.inj h
  rfl

theorem Declaration.name_over (d : Declaration) (parent : Option Lineage) :
    (d.over parent).name = d.name := by
  rw [Lineage.name, Declaration.own_over]

theorem Declaration.chain_over_none (d : Declaration) : (d.over none).chain = [d.layer] := by
  rw [Lineage.chain, Lineage.ancestors_eq, Declaration.superclass?_over, Declaration.own_over]
  rfl

theorem Declaration.chain_over_some (d : Declaration) (c : Lineage) :
    (d.over (some c)).chain = d.layer :: c.chain := by
  rw [Lineage.chain, Lineage.ancestors_eq, Declaration.superclass?_over, Declaration.own_over]
  rfl

namespace Linking

open Walk

variable {decls : List Declaration} {n : String} {s t : LinkState} {b c : Lineage} {e : Failure}

/-- A class has the name it was looked up by. -/
theorem name_over_of_find? {d : Declaration} (hd : find? decls n = some d)
    (parent : Option Lineage) : (d.over parent).name = n :=
  (d.name_over parent).trans (find?_name hd)

/-! ## Every way a call can go -/

/-- The state in which the superclass of `n` is built. -/
def enter (n : String) (s : LinkState) : LinkState := ⟨s.built, n :: s.visiting⟩

/-- The state after the class `c` has been built over what `t` holds. -/
def leave (n : String) (c : Lineage) (t : LinkState) : LinkState :=
  ⟨t.built.insert c, t.visiting.erase n⟩

/-- The ways in which a call succeeds. -/
inductive Built (decls : List Declaration) : String → LinkState → Lineage → LinkState → Prop where
  /-- The class is there already. -/
  | kept {n : String} {s : LinkState} {c : Lineage} (hb : s.built.get? n = some c) :
      Built decls n s c s
  /-- There is no superclass to build. -/
  | root {n : String} {s : LinkState} {d : Declaration} (hb : s.built.get? n = none)
      (hd : find? decls n = some d) (hv : n ∉ s.visiting) (hs : d.superclass = none) :
      Built decls n s (d.over none) (leave n (d.over none) (enter n s))
  /-- The superclass is built first. -/
  | up {n p : String} {s t : LinkState} {c : Lineage} {d : Declaration}
      (hb : s.built.get? n = none) (hd : find? decls n = some d) (hv : n ∉ s.visiting)
      (hp : d.superclass = some p) (h : Built decls p (enter n s) c t) :
      Built decls n s (d.over (some c)) (leave n (d.over (some c)) t)

/-- The ways in which a call fails. -/
inductive Fails (decls : List Declaration) : String → LinkState → Failure → Prop where
  /-- The name is not declared. -/
  | undeclared {n : String} {s : LinkState} (hd : find? decls n = none) :
      Fails decls n s (.moduleNotFound n)
  /-- The name is under way. -/
  | cycle {n : String} {s : LinkState} {d : Declaration} (hd : find? decls n = some d)
      (hv : n ∈ s.visiting) : Fails decls n s (.inheritanceCycle n)
  /-- The superclass cannot be built. -/
  | up {n p : String} {s : LinkState} {e : Failure} {d : Declaration}
      (hd : find? decls n = some d) (hv : n ∉ s.visiting) (hp : d.superclass = some p)
      (h : Fails decls p (enter n s) e) : Fails decls n s e

/-- The call for a class that is there already. -/
theorem build_kept (hb : s.built.get? n = some c) : build decls n s = .ok (c, s) := by
  rw [build, hb]

/-- The call for a name that is not declared. -/
theorem build_undeclared (hb : s.built.get? n = none) (hd : find? decls n = none) :
    build decls n s = .error (.moduleNotFound n) := by
  rw [build, hb]
  dsimp only
  -- `build` keeps the equation of the look-up it goes by, so that `hd` cannot be rewritten with
  split
  · rfl
  · rename_i d hd'
    exact absurd (hd'.symm.trans hd) (Option.some_ne_none d)

/-- The call for a name that is under way. -/
theorem build_cycle {d : Declaration} (hb : s.built.get? n = none) (hd : find? decls n = some d)
    (hv : n ∈ s.visiting) : build decls n s = .error (.inheritanceCycle n) := by
  rw [build, hb]
  dsimp only
  split
  · rename_i hd'
    exact absurd (hd.symm.trans hd') (Option.some_ne_none d)
  · rw [dif_pos hv]

/-- The call for a declared name that is neither built nor under way. -/
theorem build_enter {d : Declaration} (hb : s.built.get? n = none) (hd : find? decls n = some d)
    (hv : n ∉ s.visiting) :
    build decls n s = match d.superclass with
      | none => .ok (d.over none, leave n (d.over none) (enter n s))
      | some p => match build decls p (enter n s) with
        | .ok (c, t) => .ok (d.over (some c), leave n (d.over (some c)) t)
        | .error e => .error e := by
  rw [build, hb]
  dsimp only
  split
  · rename_i hd'
    exact absurd (hd.symm.trans hd') (Option.some_ne_none d)
  · rename_i d' hd'
    obtain rfl : d = d' := Option.some.inj (hd.symm.trans hd')
    rw [dif_neg hv]
    cases d.superclass with
    | none => rfl
    | some p =>
      dsimp only [enter]
      cases build decls p ⟨s.built, n :: s.visiting⟩ <;> rfl

/-- A call goes one of these ways.  The induction is that of `build`: one more declaration is under
    way in each nested call. -/
theorem build_cases (decls : List Declaration) (n : String) (s : LinkState) :
    match build decls n s with
    | .ok (c, t) => Built decls n s c t
    | .error e => Fails decls n s e := by
  cases hb : s.built.get? n with
  | some c =>
    rw [build_kept hb]
    exact .kept hb
  | none =>
    cases hd : find? decls n with
    | none =>
      rw [build_undeclared hb hd]
      exact .undeclared hd
    | some d =>
      by_cases hv : n ∈ s.visiting
      · rw [build_cycle hb hd hv]
        exact .cycle hd hv
      · rw [build_enter hb hd hv]
        cases hs : d.superclass with
        | none => exact .root hb hd hv hs
        | some p =>
          have ih := build_cases decls p (enter n s)
          dsimp only
          cases hp : build decls p (enter n s) with
          | ok r =>
            rw [hp] at ih
            exact .up hb hd hv hs ih
          | error e =>
            rw [hp] at ih
            exact .up hd hv hs ih
termination_by waiting decls s.visiting
decreasing_by exact waiting_lt hd hv

/-! ## What a name denotes -/

/-- Layer by layer the chain of `c` is the walk from `n` to its end. -/
def Denotes (decls : List Declaration) (n : String) (c : Lineage) : Prop :=
  ∃ ds, Ends decls n ds ∧ c.chain = ds.map Declaration.layer

theorem Denotes.unique (h : Denotes decls n b) (k : Denotes decls n c) : b = c := by
  obtain ⟨ds, hds, hb⟩ := h
  obtain ⟨es, hes, hc⟩ := k
  rw [hds.unique hes, ← hc] at hb
  exact Lineage.eq_of_chain_eq hb

theorem Denotes.root {d : Declaration} (hd : find? decls n = some d) (hs : d.superclass = none) :
    Denotes decls n (d.over none) :=
  ⟨[d], .root hd hs, d.chain_over_none⟩

theorem Denotes.up {d : Declaration} {p : String} (hd : find? decls n = some d)
    (hp : d.superclass = some p) (h : Denotes decls p c) : Denotes decls n (d.over (some c)) := by
  obtain ⟨ds, hds, hc⟩ := h
  exact ⟨d :: ds, .up hd hp hds, by rw [d.chain_over_some, hc, List.map_cons]⟩

theorem Denotes.ends (h : Denotes decls n c) : ∃ ds, Ends decls n ds := by
  obtain ⟨ds, hds, -⟩ := h
  exact ⟨ds, hds⟩

/-! ## The cache -/

/-- Every class the pool holds is the one its name denotes. -/
def Faithful (decls : List Declaration) (p : Pool) : Prop :=
  ∀ n c, p.get? n = some c → Denotes decls n c

theorem Faithful.insert {p : Pool} (hp : Faithful decls p) (hc : Denotes decls n c)
    (hn : c.name = n) : Faithful decls (p.insert c) := by
  intro m b hb
  rw [Pool.get?_insert] at hb
  split at hb
  · rename_i hm
    obtain rfl : m = n := hm.symm.trans hn
    exact Option.some.inj hb ▸ hc
  · exact hp m b hb

/-- A class is found where it was built. -/
theorem Built.get?_eq (h : Built decls n s c t) : t.built.get? n = some c := by
  cases h with
  | kept hb => exact hb
  | root hb hd hv hs =>
    rw [leave, Pool.get?_insert, if_pos (name_over_of_find? hd _)]
  | up hb hd hv hp h =>
    rw [leave, Pool.get?_insert, if_pos (name_over_of_find? hd _)]

/-- What is built stays as it is. -/
theorem Built.keeps (h : Built decls n s c t) {m : String} (hm : s.built.get? m = some b) :
    t.built.get? m = some b := by
  -- a class that comes in has a name under which there was none
  have hne : ∀ {k : String} {r : LinkState} {d : Declaration} {parent : Option Lineage},
      r.built.get? k = none → find? decls k = some d → r.built.get? m = some b →
      (d.over parent).name ≠ m := by
    rintro k r d parent hk hd hm rfl
    rw [name_over_of_find? hd, hk] at hm
    exact nomatch hm
  induction h with
  | kept _ => exact hm
  | root hb hd hv hs =>
    rw [leave, Pool.get?_insert, if_neg (hne hb hd hm)]
    exact hm
  | up hb hd hv hp h ih =>
    rw [leave, Pool.get?_insert, if_neg (hne hb hd hm)]
    exact ih hm

/-- A call that succeeds on a faithful cache gives what its name denotes, and leaves a faithful
    cache. -/
theorem Built.denotes (h : Built decls n s c t) (hs : Faithful decls s.built) :
    Denotes decls n c ∧ Faithful decls t.built := by
  induction h with
  | kept hb => exact ⟨hs _ _ hb, hs⟩
  | root hb hd hv hsup =>
    have hden := Denotes.root hd hsup
    exact ⟨hden, Faithful.insert hs hden (name_over_of_find? hd _)⟩
  | up hb hd hv hp h ih =>
    obtain ⟨hc, ht⟩ := ih hs
    have hden := Denotes.up hd hp hc
    exact ⟨hden, Faithful.insert ht hden (name_over_of_find? hd _)⟩

/-! ## The names under way -/

/-- A call that succeeds leaves the names under way as it found them. -/
theorem Built.visiting_eq (h : Built decls n s c t) : t.visiting = s.visiting := by
  induction h with
  | kept _ => rfl
  | root _ _ _ _ => exact List.erase_cons_head ..
  | up _ _ _ _ _ ih =>
    -- the nested call has left `n` in front, where it found it
    rw [leave, ih]
    exact List.erase_cons_head ..

/-- A call that fails has walked on from its name, over declarations not under way and over none of
    them twice.  It stopped at a name that is not declared, or at one it had been at before. -/
theorem Fails.walk (h : Fails decls n s e) (hn : s.visiting.Nodup) :
    ∃ ds x, Passes decls n ds x ∧ ((ds.map Declaration.name).reverse ++ s.visiting).Nodup ∧
      ((find? decls x = none ∧ e = .moduleNotFound x) ∨
       (x ∈ (ds.map Declaration.name).reverse ++ s.visiting ∧ e = .inheritanceCycle x)) := by
  induction h with
  | undeclared hd => exact ⟨[], _, .here, hn, .inl ⟨hd, rfl⟩⟩
  | cycle hd hv => exact ⟨[], _, .here, hn, .inr ⟨hv, rfl⟩⟩
  | @up n p s e d hd hv hp h ih =>
    obtain ⟨ds, x, hx, hnd, hend⟩ := ih (List.nodup_cons.mpr ⟨hv, hn⟩)
    -- what is under way for the nested call is what the whole walk has passed by then
    have hpath : ((d :: ds).map Declaration.name).reverse ++ s.visiting =
        (ds.map Declaration.name).reverse ++ (enter n s).visiting := by
      rw [List.map_cons, find?_name hd, List.reverse_cons, List.append_assoc]
      rfl
    refine ⟨d :: ds, x, .up hd hp hx, ?_, ?_⟩
    · rw [hpath]
      exact hnd
    · rw [hpath]
      exact hend

/-- The failure of a call made with nothing under way is the fault of the walk from its name. -/
theorem Fails.fault (h : Fails decls n s e) (hs : s.visiting = []) : Fault decls n e := by
  obtain ⟨ds, x, hx, hnd, hend⟩ := h.walk (by rw [hs]; exact List.nodup_nil)
  rw [hs, List.append_nil, List.nodup_reverse] at hnd
  rw [hs, List.append_nil, List.mem_reverse] at hend
  rcases hend with ⟨hd, rfl⟩ | ⟨hm, rfl⟩
  · exact .strays ⟨ds, hx, hd⟩
  · exact .returns ⟨ds, hx, hnd, hm⟩

end Linking

end Splice
