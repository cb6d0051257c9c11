/-
  The calls that linking makes, and what each of them leaves behind.

  Linking asks for one declared name after the other.  The call for a name asks for its superclass
  first, and so on, along a walk that may well go round in a circle.  What stops it are the names
  under way: a name is put down before the nested call is made, and taken back when the class is
  built.

  1. **Calls inside calls** — `Nests decls n s p t`: the call for `n` in the state `s` makes the
     call for `p` in the state `t`, which settles it (`Nests.build_eq`).  A call that makes no other
     is `Settled` by what it looks up (`settled_or_nests`).  In a nested call one more declared name
     is under way, so that calls cannot go on inside one another for ever (`wellFounded_nests`).

  2. **Sound states** — `Sound decls s`: what is under way is declared and not built, and what is
     built has its superclass built (`Pool.Closed`).  To enter a class keeps a state sound and so
     does to leave it (`Sound.enter`, `Sound.leave`), hence so does a call that succeeds
     (`Built.sound`).

  3. **What a call leaves** — the classes that a call adds are those along the walk from its name up
     to the first class that is built already (`UpToBuilt`), and everything else is as before
     (`Leaves`).

  4. **While linking** — `Asked decls n s`: linking makes the call for `n` in the state `s`, by
     itself or inside another one.  All states that linking goes through are sound
     (`Reached.sound`), and nothing is under way in a state in which it goes on to the next
     declaration (`Sound.of_buildAll`).  `link_calls` puts these together.
-/
import Mathlib.Data.List.Perm.Subperm
import Splice.Proofs.Pool.Linking

namespace Splice

namespace Pool

variable {p : Pool} {c : Lineage}

/-- The superclass of every class of the pool is the class the pool holds under its name. -/
def Closed (p : Pool) : Prop :=
  ∀ n c b, p.get? n = some c → c.superclass? = some b → p.get? b.name = some b

theorem closed_empty : empty.Closed := fun _ _ _ h => absurd h nofun

/-- A class can come in under a new name, over a class that is there. -/
theorem Closed.insert (hp : p.Closed) (hnew : p.get? c.name = none)
    (hsup : ∀ b, c.superclass? = some b → p.get? b.name = some b) : (p.insert c).Closed := by
  -- it takes no other class's place
  have hstays : ∀ n b, p.get? n = some b → (p.insert c).get? n = some b := by
    intro n b hn
    have hne : c.name ≠ n := by
      rintro rfl
      exact Option.some_ne_none b (hn.symm.trans hnew)
    rw [get?_insert, if_neg hne, hn]
  intro n a b hn hab
  rw [get?_insert] at hn
  split at hn
  · obtain rfl := Option.some.inj hn
    exact hstays _ _ (hsup b hab)
  · exact hstays _ _ (hp n a b hn hab)

end Pool

namespace Linking

open Walk

variable {decls : List Declaration} {n p : String} {s t : LinkState} {c : Lineage}
  {d : Declaration} {ns : List String}

/-! ## Calls inside calls -/

/-- The call for `n` in the state `s` makes the call for `p` in the state `t`. -/
structure Nests (decls : List Declaration) (n : String) (s : LinkState) (p : String)
    (t : LinkState) : Prop where
  unbuilt : s.built.get? n = none
  free : n ∉ s.visiting
  parent : ∃ d, find? decls n = some d ∧ d.superclass = some p
  entered : t = enter n s

/-- The outcome of the call for `n` in the state `s`, if it is settled by what is looked up. -/
inductive Settled (decls : List Declaration) (n : String) (s : LinkState) :
    Except Failure (Lineage × LinkState) → Prop where
  | kept {c : Lineage} (hb : s.built.get? n = some c) : Settled decls n s (.ok (c, s))
  | undeclared (hb : s.built.get? n = none) (hd : find? decls n = none) :
      Settled decls n s (.error (.moduleNotFound n))
  | cycle {d : Declaration} (hb : s.built.get? n = none) (hd : find? decls n = some d)
      (hv : n ∈ s.visiting) : Settled decls n s (.error (.inheritanceCycle n))
  | root {d : Declaration} (hb : s.built.get? n = none) (hd : find? decls n = some d)
      (hv : n ∉ s.visiting) (hs : d.superclass = none) :
      Settled decls n s (.ok (d.over none, leave n (d.over none) (enter n s)))

/-- The nested call decides: if it fails, so does the call, and else the class is built over the one
    it gives. -/
theorem Nests.build_eq (h : Nests decls n s p t) :
    ∃ d, find? decls n = some d ∧ build decls n s =
      (build decls p t).map fun (c, u) => (d.over (some c), leave n (d.over (some c)) u) := by
  obtain ⟨d, hd, hp⟩ := h.parent
  refine ⟨d, hd, ?_⟩
  rw [build_enter h.unbuilt hd h.free, hp, h.entered]
  dsimp only
  cases build decls p (enter n s) <;> rfl

theorem settled_or_nests (decls : List Declaration) (n : String) (s : LinkState) :
    Settled decls n s (build decls n s) ∨ ∃ p t, Nests decls n s p t := by
  cases hb : s.built.get? n with
  | some c =>
    rw [build_kept hb]
    exact .inl (.kept hb)
  | none =>
    cases hd : find? decls n with
    | none =>
      rw [build_undeclared hb hd]
      exact .inl (.undeclared hb hd)
    | some d =>
      by_cases hv : n ∈ s.visiting
      · rw [build_cycle hb hd hv]
        exact .inl (.cycle hb hd hv)
      · cases hs : d.superclass with
        | some p => exact .inr ⟨p, _, hb, hv, ⟨d, hd, hs⟩, rfl⟩
        | none =>
          rw [build_enter hb hd hv, hs]
          exact .inl (.root hb hd hv hs)

theorem Nests.waiting_lt (h : Nests decls n s p t) :
    waiting decls t.visiting < waiting decls s.visiting := by
  obtain ⟨d, hd, -⟩ := h.parent
  rw [h.entered]
  exact Linking.waiting_lt hd h.free

/-- There is no infinite row of calls each of which is made inside the one before. -/
theorem wellFounded_nests (decls : List Declaration) :
    WellFounded fun inner outer : String × LinkState =>
      Nests decls outer.1 outer.2 inner.1 inner.2 :=
  Subrelation.wf Nests.waiting_lt
    (measure fun call : String × LinkState => waiting decls call.2.visiting).wf

/-! ## Sound states -/

/-- What holds of every state that linking goes through. -/
structure Sound (decls : List Declaration) (s : LinkState) : Prop where
  /-- What is under way is not built. -/
  disjoint : ∀ m ∈ s.visiting, s.built.get? m = none
  /-- What is under way is declared. -/
  declared : s.visiting ⊆ decls.map Declaration.name
  /-- Nothing is under way twice. -/
  nodup : s.visiting.Nodup
  /-- What is built has its superclass built. -/
  closed : s.built.Closed

theorem sound_empty (decls : List Declaration) : Sound decls {} where
  disjoint := fun _ h => absurd h List.not_mem_nil
  declared := List.nil_subset _
  nodup := List.nodup_nil
  closed := Pool.closed_empty

/-- There are never more names under way than there are declarations. -/
theorem Sound.length_visiting_le (hs : Sound decls s) : s.visiting.length ≤ decls.length := by
  have hsub := (List.subperm_of_subset hs.nodup hs.declared).length_le
  rwa [List.length_map] at hsub

theorem Sound.enter (hs : Sound decls s) (hb : s.built.get? n = none)
    (hd : find? decls n = some d) (hv : n ∉ s.visiting) : Sound decls (enter n s) where
  disjoint := fun m hm => by
    rcases List.mem_cons.mp hm with rfl | hm
    · exact hb
    · exact hs.disjoint m hm
  declared := List.cons_subset.mpr
    ⟨List.mem_map.mpr ⟨d, find?_mem hd, find?_name hd⟩, hs.declared⟩
  nodup := List.nodup_cons.mpr ⟨hv, hs.nodup⟩
  closed := hs.closed

/-- The class that was entered last is left once it is built over a class that is there. -/
theorem Sound.leave (hs : Sound decls s) (hv : s.visiting = n :: ns) (hn : c.name = n)
    (hsup : ∀ b, c.superclass? = some b → s.built.get? b.name = some b) :
    Sound decls (leave n c s) := by
  have hns : (Linking.leave n c s).visiting = ns := by
    rw [Linking.leave, hv]
    exact List.erase_cons_head ..
  have hunder : ∀ m ∈ ns, m ∈ s.visiting := fun m hm => hv ▸ List.mem_cons_of_mem n hm
  have hnodup : n ∉ ns ∧ ns.Nodup := List.nodup_cons.mp (hv ▸ hs.nodup)
  have hnew : s.built.get? c.name = none := hs.disjoint _ (by rw [hn, hv]; exact List.mem_cons_self)
  refine ⟨fun m hm => ?_, fun m hm => ?_, hns ▸ hnodup.2, hs.closed.insert hnew hsup⟩
  · rw [hns] at hm
    have hne : c.name ≠ m := by
      rintro rfl
      exact hnodup.1 (hn ▸ hm)
    rw [Linking.leave, Pool.get?_insert, if_neg hne]
    exact hs.disjoint m (hunder m hm)
  · exact hs.declared (hunder m (hns ▸ hm))

/-- A call that succeeds keeps a state sound. -/
theorem Built.sound (h : Built decls n s c t) (hs : Sound decls s) : Sound decls t := by
  induction h with
  | kept _ => exact hs
  | root hb hd hv _ =>
    refine (hs.enter hb hd hv).leave rfl (name_over_of_find? hd _) ?_
    intro b hsup
    rw [Declaration.superclass?_over] at hsup
    exact nomatch hsup
  | up hb hd hv hp h ih =>
    refine (ih (hs.enter hb hd hv)).leave h.visiting_eq (name_over_of_find? hd _) ?_
    intro b hsup
    -- the class it is built over is what the nested call has built
    rw [Declaration.superclass?_over] at hsup
    obtain rfl := Option.some.inj hsup
    rw [Pool.name_of_get? h.get?_eq]
    exact h.get?_eq

/-! ## What a call leaves -/

/-- From the name `n` the walk passes `ds`, none of which the pool holds, and then it arrives at a
    class that the pool holds or is at its end. -/
def UpToBuilt (decls : List Declaration) (p : Pool) (n : String) (ds : List Declaration) : Prop :=
  (∀ d ∈ ds, p.get? d.name = none) ∧
    ((∃ x c, Passes decls n ds x ∧ p.get? x = some c) ∨ Ends decls n ds)

theorem UpToBuilt.here {q : Pool} (hb : q.get? n = some c) : UpToBuilt decls q n [] :=
  ⟨fun _ h => absurd h List.not_mem_nil, .inl ⟨n, c, .here, hb⟩⟩

theorem UpToBuilt.root {q : Pool} (hb : q.get? n = none) (hd : find? decls n = some d)
    (hs : d.superclass = none) : UpToBuilt decls q n [d] := by
  refine ⟨?_, .inr (.root hd hs)⟩
  rw [List.forall_mem_singleton, find?_name hd]
  exact hb

theorem UpToBuilt.up {q : Pool} {ds : List Declaration} (h : UpToBuilt decls q p ds)
    (hb : q.get? n = none) (hd : find? decls n = some d) (hp : d.superclass = some p) :
    UpToBuilt decls q n (d :: ds) := by
  obtain ⟨hnone, hend⟩ := h
  refine ⟨List.forall_mem_cons.mpr ⟨(find?_name hd).symm ▸ hb, hnone⟩, ?_⟩
  rcases hend with ⟨x, c, hx, hc⟩ | hend
  · exact .inl ⟨x, c, .up hd hp hx, hc⟩
  · exact .inr (.up hd hp hend)

/-- The call adds what the walk passes before it comes to a class that is built, the farthest
    first. -/
theorem Built.added (h : Built decls n s c t) (hs : Sound decls s) :
    ∃ ds, UpToBuilt decls s.built n ds ∧
      t.built.names = s.built.names ++ (ds.map Declaration.name).reverse := by
  induction h with
  | kept hb => exact ⟨[], .here hb, (List.append_nil _).symm⟩
  | @root n s d hb hd hv hsup =>
    have hname : (d.over none).name = n := name_over_of_find? hd none
    refine ⟨[d], .root hb hd hsup, ?_⟩
    rw [leave, Pool.names_insert_of_none (hname.symm ▸ hb), hname, List.map_singleton,
      find?_name hd]
    rfl
  | @up n p s t c d hb hd hv hp h ih =>
    have henter := hs.enter hb hd hv
    obtain ⟨ds, hwalk, hnames⟩ := ih henter
    refine ⟨d :: ds, hwalk.up hb hd hp, ?_⟩
    -- the name is under way in the nested call, which therefore does not build it
    have hfree : t.built.get? n = none :=
      (h.sound henter).disjoint n (h.visiting_eq ▸ List.mem_cons_self)
    have hname : (d.over (some c)).name = n := name_over_of_find? hd (some c)
    rw [leave, Pool.names_insert_of_none (hname.symm ▸ hfree), hname, hnames, List.map_cons,
      List.reverse_cons, find?_name hd, ← List.append_assoc]
    rfl

/-- What the call for `n` in the state `s` leaves behind when it gives the class `c`. -/
structure Leaves (decls : List Declaration) (n : String) (s : LinkState) (c : Lineage)
    (t : LinkState) : Prop where
  /-- What is under way is as it was. -/
  visiting : t.visiting = s.visiting
  /-- Every class that was built is as it was. -/
  keeps : ∀ m b, s.built.get? m = some b → t.built.get? m = some b
  /-- The new ones are those along the walk from `n` up to the first that was built. -/
  added : ∃ ds, UpToBuilt decls s.built n ds ∧
    t.built.names = s.built.names ++ (ds.map Declaration.name).reverse
  /-- The class the call gives is one of those that are built now. -/
  found : t.built.get? n = some c

theorem Sound.leaves (hs : Sound decls s) (hb : build decls n s = .ok (c, t)) :
    Sound decls t ∧ Leaves decls n s c t := by
  have h := build_cases decls n s
  rw [hb] at h
  exact ⟨h.sound hs, h.visiting_eq, fun _ _ => h.keeps, h.added hs, h.get?_eq⟩

/-! ## While linking -/

/-- A list of calls, made with nothing under way, leaves nothing under way. -/
theorem Sound.of_buildAll (hs : Sound decls s) (hv : s.visiting = [])
    (h : buildAll decls ns s = .ok t) : Sound decls t ∧ t.visiting = [] := by
  induction ns generalizing s with
  | nil => exact Except.ok.inj h ▸ ⟨hs, hv⟩
  | cons n ns ih =>
    rw [buildAll] at h
    cases hb : build decls n s with
    | error e =>
      rw [hb] at h
      cases h
    | ok r =>
      obtain ⟨c, u⟩ := r
      rw [hb] at h
      obtain ⟨hu, hleaves⟩ := hs.leaves hb
      exact ih hu (hleaves.visiting.trans hv) h

/-- The declarations are linked by these calls. -/
theorem link_eq_buildAll (hn : (decls.map Declaration.name).Nodup) :
    Pool.link decls = (buildAll decls (decls.map Declaration.name) {}).map LinkState.built := by
  have hnone : firstRepeated [] (decls.map Declaration.name) = none :=
    firstRepeated_eq_none_iff.mpr ⟨hn, fun _ _ => List.not_mem_nil⟩
  rw [Pool.link, hnone]
  dsimp only
  cases buildAll decls (decls.map Declaration.name) {} <;> rfl

/-- Linking makes the call for `n` in the state `s`. -/
inductive Asked (decls : List Declaration) : String → LinkState → Prop where
  /-- The names before have all been built, and `n` is next. -/
  | next {n : String} {s : LinkState} {before after : List String}
      (hn : decls.map Declaration.name = before ++ n :: after)
      (hs : buildAll decls before {} = .ok s) : Asked decls n s
  /-- The call is made inside another one. -/
  | inside {n p : String} {s t : LinkState} (h : Asked decls n s) (hp : Nests decls n s p t) :
      Asked decls p t

/-- Linking goes through the state. -/
inductive Reached (decls : List Declaration) : LinkState → Prop where
  /-- A call is made in it. -/
  | asked {n : String} {s : LinkState} (h : Asked decls n s) : Reached decls s
  /-- A name has been put under way. -/
  | entered {n : String} {s : LinkState} {d : Declaration} (h : Asked decls n s)
      (hb : s.built.get? n = none) (hd : find? decls n = some d) (hv : n ∉ s.visiting) :
      Reached decls (enter n s)
  /-- A call has left it behind. -/
  | left {n : String} {s t : LinkState} {c : Lineage} (h : Asked decls n s)
      (hb : build decls n s = .ok (c, t)) : Reached decls t

theorem Asked.sound (h : Asked decls n s) : Sound decls s := by
  induction h with
  | next _ hs => exact ((sound_empty decls).of_buildAll rfl hs).1
  | inside _ hp ih =>
    obtain ⟨d, hd, -⟩ := hp.parent
    rw [hp.entered]
    exact ih.enter hp.unbuilt hd hp.free

theorem Reached.sound (h : Reached decls s) : Sound decls s := by
  cases h with
  | asked h => exact h.sound
  | entered h hb hd hv => exact h.sound.enter hb hd hv
  | left h hb => exact (h.sound.leaves hb).1

/-- What holds of the call for `n` that is made in the state `s`. -/
structure Orderly (decls : List Declaration) (n : String) (s : LinkState) : Prop where
  /-- It is settled by what is looked up, or makes a nested call. -/
  course : Settled decls n s (build decls n s) ∨ ∃ p t, Nests decls n s p t
  /-- A nested call settles it. -/
  decided : ∀ p t, Nests decls n s p t → ∃ d, find? decls n = some d ∧ build decls n s =
    (build decls p t).map fun (c, u) => (d.over (some c), leave n (d.over (some c)) u)
  /-- In a nested call one more name is under way, which is declared as all of them are. -/
  grows : ∀ p t, Nests decls n s p t →
    n ∉ s.visiting ∧ t.visiting = n :: s.visiting ∧ t.visiting ⊆ decls.map Declaration.name
  /-- No more calls are made inside one another than there are declarations. -/
  bounded : s.visiting.length ≤ decls.length
  /-- If it succeeds, it leaves everything as it was, but for the classes it adds. -/
  leaves : ∀ c t, build decls n s = .ok (c, t) → Leaves decls n s c t

theorem Asked.orderly (h : Asked decls n s) : Orderly decls n s where
  course := settled_or_nests decls n s
  decided := fun _ _ hp => hp.build_eq
  grows := fun _ _ hp =>
    ⟨hp.free, congrArg LinkState.visiting hp.entered, (h.inside hp).sound.declared⟩
  bounded := h.sound.length_visiting_le
  leaves := fun _ _ hb => (h.sound.leaves hb).2

/-- To link is to make the calls for the declared names one after the other.  Calls do not go on
    inside one another for ever, and every one of them is orderly.  All states on the way are sound,
    and nothing is under way when the next declaration is begun. -/
theorem link_calls (decls : List Declaration) (hn : (decls.map Declaration.name).Nodup) :
    Pool.link decls = (buildAll decls (decls.map Declaration.name) {}).map LinkState.built ∧
    (WellFounded fun inner outer : String × LinkState =>
      Nests decls outer.1 outer.2 inner.1 inner.2) ∧
    (∀ n s, Asked decls n s → Orderly decls n s) ∧
    (∀ s, Reached decls s → Sound decls s) ∧
    ∀ before n after s, decls.map Declaration.name = before ++ n :: after →
      buildAll decls before {} = .ok s → s.visiting = [] := by
  refine ⟨link_eq_buildAll hn, wellFounded_nests decls, fun n s h => h.orderly,
    fun s h => h.sound, fun before n after s _ hs => ?_⟩
  exact ((sound_empty decls).of_buildAll rfl hs).2

/-- The call for `B` inside the call for `C`, which is made first. -/
theorem link_calls_nested :
    let decls : List Declaration := [⟨"C", some "B", []⟩, ⟨"A", none, []⟩, ⟨"B", some "A", []⟩]
    (decls.map Declaration.name).Nodup ∧ Asked decls "B" (enter "C" {}) ∧
      ∃ c t, build decls "B" (enter "C" {}) = .ok (c, t) ∧ t.visiting = ["C"] ∧
        t.built.names = ["A", "B"] ∧ Sound decls t := by
  intro decls
  have hn : (decls.map Declaration.name).Nodup := by decide
  have hfirst : Asked decls "C" {} :=
    .next (show decls.map Declaration.name = [] ++ "C" :: ["A", "B"] from rfl) rfl
  have hasked : Asked decls "B" (enter "C" {}) :=
    hfirst.inside ⟨rfl, List.not_mem_nil, ⟨_, rfl, rfl⟩, rfl⟩
  have hb : build decls "B" (enter "C" {}) =
      .ok (⟨⟨"B", []⟩, [⟨"A", []⟩]⟩,
        ⟨⟨[⟨⟨"A", []⟩, []⟩, ⟨⟨"B", []⟩, [⟨"A", []⟩]⟩]⟩, ["C"]⟩) := by cbv
  obtain ⟨-, -, hcalls, hsound, -⟩ := link_calls decls hn
  exact ⟨hn, hasked, _, _, hb, ((hcalls _ _ hasked).leaves _ _ hb).visiting, rfl,
    hsound _ (.left hasked hb)⟩

end Linking

end Splice
