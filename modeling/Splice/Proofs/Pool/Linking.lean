/-
  When linking succeeds, and how it fails.

  Linking goes through the declarations in order and shares one cache between them.  The cache makes
  no difference: what comes of a list of declarations is what comes of the superclass walk from each
  declaration, taken separately.

  1. **A name twice** — `firstRepeated` finds the first name that stands in the list a second time
     (`firstRepeated_eq_some_iff`).  This fault goes before all others (`FirstRepeat`).

  2. **Between two declarations** — `Rested`: no name is under way, the cache is faithful, and every
     name is kept once.  A call made there builds what its name denotes (`Rested.of_build_ok`) or
     has the fault of the walk from its name (`Rested.of_build_error`), and a whole list of calls
     has the fault of the first name whose walk does not end (`Rested.buildAll`).

  3. **The result** — `Linked decls p`: every class of `p` is what its name denotes, and every
     declared name is there.  Linking gives such a pool, or fails with the first fault there is
     (`link_cases`, `link_outcome`).
-/
import Splice.Proofs.Pool.Building
import Splice.Proofs.Pool.Lookup

namespace Splice.Linking

open Walk

variable {decls : List Declaration} {n : String} {s t : LinkState} {c : Lineage} {e f : Failure}

/-! ## A name twice -/

theorem firstRepeated_eq_none_iff {seen ns : List String} :
    firstRepeated seen ns = none ↔ ns.Nodup ∧ ∀ m ∈ ns, m ∉ seen := by
  induction ns generalizing seen with
  | nil => simp [firstRepeated]
  | cons m ns ih =>
    rw [firstRepeated]
    split
    · rename_i hm
      exact ⟨nofun, fun h => absurd hm (h.2 m List.mem_cons_self)⟩
    · rename_i hm
      rw [ih, List.nodup_cons]
      constructor
      · rintro ⟨hns, hseen⟩
        refine ⟨⟨fun h => hseen m h List.mem_cons_self, hns⟩, fun k hk => ?_⟩
        rcases List.mem_cons.mp hk with rfl | hk
        · exact hm
        · exact fun h => hseen k hk (List.mem_cons_of_mem m h)
      · rintro ⟨⟨hmn, hns⟩, hseen⟩
        refine ⟨hns, fun k hk h => ?_⟩
        rcases List.mem_cons.mp h with rfl | h
        · exact hmn hk
        · exact hseen k (List.mem_cons_of_mem m hk) h

/-- The name found stands behind names none of which stands there twice, and is one of them. -/
theorem firstRepeated_eq_some_iff {seen ns : List String} :
    firstRepeated seen ns = some n ↔
      ∃ as bs, ns = as ++ n :: bs ∧ firstRepeated seen as = none ∧ (n ∈ seen ∨ n ∈ as) := by
  induction ns generalizing seen with
  | nil => simp [firstRepeated]
  | cons m ns ih =>
    by_cases hm : m ∈ seen
    · rw [firstRepeated, if_pos hm]
      constructor
      · rintro ⟨⟩
        exact ⟨[], ns, rfl, rfl, .inl hm⟩
      · rintro ⟨as, bs, hns, has, hn⟩
        cases as with
        | nil => exact congrArg some (List.cons.inj hns).1
        | cons a as =>
          obtain ⟨rfl, -⟩ := List.cons.inj hns
          rw [firstRepeated, if_pos hm] at has
          exact nomatch has
    · rw [firstRepeated, if_neg hm, ih]
      constructor
      · rintro ⟨as, bs, rfl, has, hn⟩
        refine ⟨m :: as, bs, rfl, by rw [firstRepeated, if_neg hm, has], ?_⟩
        -- `m` counts as seen for the rest, and as passed for the whole
        rcases hn with hn | hn
        · rcases List.mem_cons.mp hn with rfl | hn
          · exact .inr List.mem_cons_self
          · exact .inl hn
        · exact .inr (List.mem_cons_of_mem m hn)
      · rintro ⟨as, bs, hns, has, hn⟩
        cases as with
        | nil =>
          obtain ⟨rfl, -⟩ := List.cons.inj hns
          exact absurd hn (by simp [hm])
        | cons a as =>
          obtain ⟨rfl, rfl⟩ := List.cons.inj hns
          rw [firstRepeated, if_neg hm] at has
          refine ⟨as, bs, rfl, has, ?_⟩
          rcases hn with hn | hn
          · exact .inl (List.mem_cons_of_mem m hn)
          · rcases List.mem_cons.mp hn with rfl | hn
            · exact .inl List.mem_cons_self
            · exact .inr hn

/-- The failure `e` is that of the first declaration whose name has been declared before. -/
def FirstRepeat (decls : List Declaration) (e : Failure) : Prop :=
  ∃ before d after, decls = before ++ d :: after ∧ (before.map Declaration.name).Nodup ∧
    d.name ∈ before.map Declaration.name ∧
    e = .configuration ("class " ++ d.name ++ " is declared more than once")

theorem firstRepeat_iff :
    FirstRepeat decls e ↔ ∃ n, firstRepeated [] (decls.map Declaration.name) = some n ∧
      e = .configuration ("class " ++ n ++ " is declared more than once") := by
  simp only [firstRepeated_eq_some_iff, firstRepeated_eq_none_iff]
  constructor
  · rintro ⟨before, d, after, rfl, hn, hd, rfl⟩
    exact ⟨d.name, ⟨_, _, List.map_append, ⟨hn, fun _ _ => List.not_mem_nil⟩, .inr hd⟩, rfl⟩
  · rintro ⟨n, ⟨as, bs, hns, ⟨has, -⟩, hn⟩, rfl⟩
    obtain ⟨before, rest, rfl, rfl, hrest⟩ := List.map_eq_append_iff.mp hns
    obtain ⟨d, after, rfl, rfl, -⟩ := List.map_eq_cons_iff.mp hrest
    exact ⟨before, d, after, rfl, has, hn.resolve_left List.not_mem_nil, rfl⟩

/-! ## Between two declarations -/

/-- The state in which a declaration is begun. -/
structure Rested (decls : List Declaration) (s : LinkState) : Prop where
  visiting_nil : s.visiting = []
  faithful : Faithful decls s.built
  distinct : s.built.Distinct

theorem rested_empty (decls : List Declaration) : Rested decls {} :=
  ⟨rfl, fun _ _ h => absurd h nofun, Pool.distinct_empty⟩

theorem Built.distinct (h : Built decls n s c t) (hs : s.built.Distinct) : t.built.Distinct := by
  induction h with
  | kept _ => exact hs
  | root _ _ _ _ => exact hs.insert _
  | up _ _ _ _ _ ih => exact (ih hs).insert _

theorem Built.rested (h : Built decls n s c t) (hs : Rested decls s) : Rested decls t :=
  ⟨h.visiting_eq.trans hs.visiting_nil, (h.denotes hs.faithful).2, h.distinct hs.distinct⟩

/-- A call made with nothing under way builds what its name denotes. -/
theorem Rested.of_build_ok (hs : Rested decls s) (hb : build decls n s = .ok (c, t)) :
    Built decls n s c t ∧ Rested decls t ∧ Denotes decls n c := by
  have hcases := build_cases decls n s
  rw [hb] at hcases
  exact ⟨hcases, hcases.rested hs, (hcases.denotes hs.faithful).1⟩

/-- If it fails, it has the fault of the walk from its name. -/
theorem Rested.of_build_error (hs : Rested decls s) (hb : build decls n s = .error e) :
    Fault decls n e := by
  have hcases := build_cases decls n s
  rw [hb] at hcases
  exact hcases.fault hs.visiting_nil

/-- The calls for several names: each name is then held, or the first walk that does not end is the
    failure.  What was held before is held still. -/
theorem Rested.buildAll (hs : Rested decls s) (ns : List String) :
    match buildAll decls ns s with
    | .ok t => Rested decls t ∧ (∀ n ∈ ns, ∃ c, t.built.get? n = some c) ∧
        ∀ m b, s.built.get? m = some b → t.built.get? m = some b
    | .error e => ∃ as n bs, ns = as ++ n :: bs ∧ (∀ m ∈ as, ∃ ds, Ends decls m ds) ∧
        Fault decls n e := by
  induction ns generalizing s with
  | nil => exact ⟨hs, fun _ h => absurd h List.not_mem_nil, fun _ _ h => h⟩
  | cons n ns ih =>
    rw [Linking.buildAll]
    cases hb : build decls n s with
    | error e =>
      exact ⟨[], n, ns, rfl, fun _ h => absurd h List.not_mem_nil, hs.of_build_error hb⟩
    | ok r =>
      obtain ⟨c, t⟩ := r
      obtain ⟨hbuilt, ht, hden⟩ := hs.of_build_ok hb
      have hrest := ih ht
      dsimp only
      cases ha : Linking.buildAll decls ns t with
      | ok u =>
        rw [ha] at hrest
        obtain ⟨hu, hheld, hkeep⟩ := hrest
        -- what this call has built is still there after all the others
        refine ⟨hu, fun m hm => ?_, fun m b hm => hkeep m b (hbuilt.keeps hm)⟩
        rcases List.mem_cons.mp hm with rfl | hm
        · exact ⟨c, hkeep _ _ hbuilt.get?_eq⟩
        · exact hheld m hm
      | error e =>
        rw [ha] at hrest
        obtain ⟨as, m, bs, rfl, has, hm⟩ := hrest
        refine ⟨n :: as, m, bs, rfl, fun k hk => ?_, hm⟩
        rcases List.mem_cons.mp hk with rfl | hk
        · exact hden.ends
        · exact has k hk

/-- A call with an empty cache is the walk from its name. -/
theorem build_alone_eq_ok_iff : (∃ r, build decls n {} = .ok r) ↔ ∃ ds, Ends decls n ds := by
  constructor
  · rintro ⟨r, hb⟩
    exact ((rested_empty decls).of_build_ok hb).2.2.ends
  · rintro ⟨ds, hds⟩
    cases hb : build decls n {} with
    | ok r => exact ⟨r, rfl⟩
    | error e => exact absurd ((rested_empty decls).of_build_error hb) (hds.not_fault e)

theorem build_alone_eq_error_iff : build decls n {} = .error e ↔ Fault decls n e := by
  constructor
  · exact (rested_empty decls).of_build_error
  · intro hf
    cases hb : build decls n {} with
    | ok r =>
      obtain ⟨ds, hds⟩ := build_alone_eq_ok_iff.mp ⟨r, hb⟩
      exact absurd hf (hds.not_fault e)
    | error f => rw [((rested_empty decls).of_build_error hb).unique hf]

/-! ## The result -/

/-- The failure `e` is the fault of the first declaration whose walk does not end. -/
def FirstFault (decls : List Declaration) (e : Failure) : Prop :=
  ∃ before d after, decls = before ++ d :: after ∧
    (∀ c ∈ before, ∃ ds, Ends decls c.name ds) ∧ Fault decls d.name e

/-- The pool `p` is made of what the declared names denote. -/
structure Linked (decls : List Declaration) (p : Pool) : Prop where
  faithful : Faithful decls p
  distinct : p.Distinct
  complete : ∀ d ∈ decls, ∃ c, p.get? d.name = some c

/-- Linking gives the pool of what the names denote, or the first fault; a name that is declared
    twice goes before every other fault. -/
theorem link_cases (decls : List Declaration) :
    match Pool.link decls with
    | .ok p => (decls.map Declaration.name).Nodup ∧ Linked decls p
    | .error e => FirstRepeat decls e ∨
        (decls.map Declaration.name).Nodup ∧ FirstFault decls e := by
  rw [Pool.link]
  cases hr : firstRepeated [] (decls.map Declaration.name) with
  | some n => exact .inl (firstRepeat_iff.mpr ⟨n, hr, rfl⟩)
  | none =>
    have hn := (firstRepeated_eq_none_iff.mp hr).1
    have hall := (rested_empty decls).buildAll (decls.map Declaration.name)
    dsimp only
    cases ha : buildAll decls (decls.map Declaration.name) {} with
    | ok t =>
      rw [ha] at hall
      obtain ⟨ht, hheld, -⟩ := hall
      exact ⟨hn, ht.faithful, ht.distinct, fun d hd => hheld _ (List.mem_map_of_mem hd)⟩
    | error e =>
      rw [ha] at hall
      obtain ⟨as, n, bs, hns, has, hf⟩ := hall
      obtain ⟨before, rest, rfl, rfl, hrest⟩ := List.map_eq_append_iff.mp hns
      obtain ⟨d, after, rfl, rfl, -⟩ := List.map_eq_cons_iff.mp hrest
      exact .inr ⟨hn, before, d, after, rfl, fun c hc => has _ (List.mem_map_of_mem hc), hf⟩

theorem link_ok {p : Pool} (h : Pool.link decls = .ok p) :
    (decls.map Declaration.name).Nodup ∧ Linked decls p := by
  have hcases := link_cases decls
  rwa [h] at hcases

theorem FirstRepeat.not_nodup (h : FirstRepeat decls e) :
    ¬ (decls.map Declaration.name).Nodup := by
  obtain ⟨n, hr, -⟩ := firstRepeat_iff.mp h
  intro hn
  rw [firstRepeated_eq_none_iff.mpr ⟨hn, fun _ _ => List.not_mem_nil⟩] at hr
  exact nomatch hr

theorem FirstRepeat.unique (h : FirstRepeat decls e) (k : FirstRepeat decls f) : e = f := by
  obtain ⟨m, hm, rfl⟩ := firstRepeat_iff.mp h
  obtain ⟨n, hn, rfl⟩ := firstRepeat_iff.mp k
  rw [Option.some.inj (hm.symm.trans hn)]

/-- A first fault belongs to the first declaration that has one, and that is one declaration. -/
theorem FirstFault.unique (h : FirstFault decls e) (k : FirstFault decls f) : e = f := by
  classical
  -- a search for a walk that does not end finds one declaration, the same for both
  have hfirst : ∀ {e}, FirstFault decls e → ∃ d, Fault decls d.name e ∧
      decls.find? (fun d => ¬ ∃ ds, Ends decls d.name ds) = some d := by
    rintro e ⟨before, d, after, hsplit, hb, hf⟩
    refine ⟨d, hf, List.find?_eq_some_iff_append.mpr ⟨?_, before, after, hsplit, ?_⟩⟩
    · exact decide_eq_true fun ⟨_, hds⟩ => hds.not_fault e hf
    · intro c hc
      simpa using hb c hc
  obtain ⟨c, hc, hec⟩ := hfirst h
  obtain ⟨d, hd, hfd⟩ := hfirst k
  obtain rfl : c = d := Option.some.inj (hec.symm.trans hfd)
  exact hc.unique hd

theorem FirstFault.not_ends (h : FirstFault decls e) :
    ¬ ∀ d ∈ decls, ∃ ds, Ends decls d.name ds := by
  obtain ⟨before, d, after, rfl, -, hf⟩ := h
  intro hends
  obtain ⟨ds, hds⟩ := hends d (by simp)
  exact hds.not_fault e hf

theorem link_eq_ok_iff : (∃ p, Pool.link decls = .ok p) ↔
    (decls.map Declaration.name).Nodup ∧ ∀ d ∈ decls, ∃ ds, Ends decls d.name ds := by
  have hcases := link_cases decls
  cases hl : Pool.link decls with
  | ok p =>
    rw [hl] at hcases
    obtain ⟨hn, hp⟩ := hcases
    refine ⟨fun _ => ⟨hn, fun d hd => ?_⟩, fun _ => ⟨p, rfl⟩⟩
    obtain ⟨c, hc⟩ := hp.complete d hd
    exact (hp.faithful _ _ hc).ends
  | error e =>
    rw [hl] at hcases
    refine ⟨nofun, fun ⟨hn, hends⟩ => ?_⟩
    rcases hcases with hr | ⟨-, hf⟩
    · exact absurd hn hr.not_nodup
    · exact absurd hends hf.not_ends

theorem link_eq_error_iff : Pool.link decls = .error e ↔
    FirstRepeat decls e ∨ (decls.map Declaration.name).Nodup ∧ FirstFault decls e := by
  have hcases := link_cases decls
  cases hl : Pool.link decls with
  | ok p =>
    obtain ⟨hn, hends⟩ := link_eq_ok_iff.mp ⟨p, hl⟩
    refine ⟨nofun, ?_⟩
    rintro (hr | ⟨-, hf⟩)
    · exact absurd hn hr.not_nodup
    · exact absurd hends hf.not_ends
  | error f =>
    rw [hl] at hcases
    refine ⟨fun h => Except.error.inj h ▸ hcases, fun h => ?_⟩
    rcases hcases with hr | ⟨hn, hf⟩
    · rcases h with hr' | ⟨hn, -⟩
      · rw [hr.unique hr']
      · exact absurd hn hr.not_nodup
    · rcases h with hr | ⟨-, hf'⟩
      · exact absurd hn hr.not_nodup
      · rw [hf.unique hf']

/-- A linked pool holds under each declared name what a call of its own builds. -/
theorem Linked.build_alone {p : Pool} (hp : Linked decls p) {d : Declaration} (hd : d ∈ decls) :
    ∃ c t, build decls d.name {} = .ok (c, t) ∧ p.get? d.name = some c := by
  obtain ⟨c, hc⟩ := hp.complete d hd
  have hden := hp.faithful _ _ hc
  obtain ⟨⟨b, t⟩, hb⟩ := build_alone_eq_ok_iff.mpr hden.ends
  obtain ⟨-, -, hden'⟩ := (rested_empty decls).of_build_ok hb
  obtain rfl := hden.unique hden'
  exact ⟨c, t, hb, hc⟩

/-! ## The outcome -/

/-- Linking succeeds exactly if no name is declared twice and the walk from every declaration ends.
    Otherwise its failure is that of the first name declared before, or, if there is none, the fault
    of the first walk that does not end; the name of a cycle lies on it.  The cache makes no
    difference: what comes out is what a call for each declaration gives that is made with an empty
    cache and nothing under way. -/
theorem link_outcome (decls : List Declaration) :
    ((∃ p, Pool.link decls = .ok p) ↔
      (decls.map Declaration.name).Nodup ∧ ∀ d ∈ decls, ∃ ds, Ends decls d.name ds) ∧
    (∀ e, Pool.link decls = .error e ↔
      FirstRepeat decls e ∨ (decls.map Declaration.name).Nodup ∧ FirstFault decls e) ∧
    (∀ x, Pool.link decls = .error (.inheritanceCycle x) →
      ∃ d ds, Passes decls x (d :: ds) x) ∧
    (∀ p, Pool.link decls = .ok p →
      ∀ d ∈ decls, ∃ c t, build decls d.name {} = .ok (c, t) ∧ p.get? d.name = some c) ∧
    ((decls.map Declaration.name).Nodup → ∀ e, Pool.link decls = .error e ↔
      ∃ before d after, decls = before ++ d :: after ∧
        (∀ c ∈ before, ∃ r, build decls c.name {} = .ok r) ∧ build decls d.name {} = .error e) := by
  refine ⟨link_eq_ok_iff, fun e => link_eq_error_iff, fun x hx => ?_, fun p hp d hd => ?_,
    fun hn e => ?_⟩
  · rcases link_eq_error_iff.mp hx with ⟨_, _, _, _, _, _, he⟩ | ⟨-, _, _, _, _, _, hf⟩
    · exact nomatch he
    · cases hf with
      | returns h => exact h.cycle
  · exact (link_ok hp).2.build_alone hd
  · rw [link_eq_error_iff, or_iff_right fun hr => hr.not_nodup hn, and_iff_right hn, FirstFault]
    simp only [build_alone_eq_ok_iff, build_alone_eq_error_iff]

/-- The walk from `A` comes back to `B`, and `A` is not on the cycle. -/
example : Pool.link [⟨"A", some "B", []⟩, ⟨"B", some "C", []⟩, ⟨"C", some "B", []⟩] =
    .error (.inheritanceCycle "B") := by cbv

end Splice.Linking
