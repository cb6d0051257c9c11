/-
  What planning puts on record.

  Four parts of the program write while a plan is made, each of them one record at most:

      the resolver     C declares no method f, scanning visible methods
      the builder      Creating override ...
      the template     Full method doesn't contain body tag ...
      the planner      Planned insertion into C.f

  1. **When something is written** — the conditions, said of the manifest: `LooksBeyond` for the
     resolver, `Writes` for the template of an override, and `Fills` for the template that the body
     is put into.  There is at most one such template (`Writes.unique`).

  2. **The course of a plan** — either a plan fails, and then no template has been filled; or there
     is one, and from there on nothing fails (`Course`, `course`).  This is by cases on the stages:
     linking, the class, resolution, the signature.

  3. **The trace** — `Trace` reads a list of records by what is in it, and follows from the course
     alone (`trace_plan`).
-/
import Splice.Proofs.Plan.Closure
import Splice.Proofs.Resolution
import Splice.Proofs.Template

namespace Splice

/-! ## One record or none -/

/-- The records `rs` are the record `r` if `P` holds, and none otherwise. -/
def Noted (r : Record) (P : Prop) (rs : List Record) : Prop := (P ∧ rs = [r]) ∨ (¬ P ∧ rs = [])

namespace Noted

variable {r s : Record} {P : Prop} {rs : List Record}

theorem mem_iff (h : Noted r P rs) : s ∈ rs ↔ s = r ∧ P := by
  rcases h with ⟨hP, rfl⟩ | ⟨hP, rfl⟩
  · rw [List.mem_singleton, and_iff_left hP]
  · exact iff_of_false List.not_mem_nil fun hs => hP hs.2

theorem sublist (h : Noted r P rs) : rs.Sublist [r] := by
  rcases h with ⟨-, rfl⟩ | ⟨-, rfl⟩
  · exact List.Sublist.refl [r]
  · exact List.nil_sublist [r]

end Noted

namespace Manifest

variable {m : Manifest} {c : Config} {p : Pool} {t : Lineage} {side : Template.Side}
  {n method body callee text template template' : String} {x : Method} {e : Failure}

/-! ## When something is written -/

/-- What the resolver puts on record. -/
def lookedBeyond (m : Manifest) : Record :=
  ⟨.debug, m.request.className ++ " declares no method " ++ m.request.method
    ++ ", scanning visible methods"⟩

/-- What the builder puts on record of the template of an override. -/
def creating (template : String) : Record := ⟨.info, "Creating override " ++ template⟩

/-- What the planner puts on record. -/
def announced (m : Manifest) : Record :=
  ⟨.info, "Planned insertion into " ++ m.request.className ++ "." ++ m.request.method⟩

/-- The declarations can be linked, and an override is asked for of a class that is declared but
    does not declare the method itself. -/
def LooksBeyond (m : Manifest) : Prop :=
  (∃ p, Pool.link m.classes = .ok p) ∧
  (∃ side n method body, m.request = .overriding side n method body) ∧
  ∃ d ∈ m.classes, d.name = m.request.className ∧ ∀ x ∈ d.methods, x.name ≠ m.request.method

/-- An override is asked for, its method is resolved, and this is the template written for it. -/
inductive Writes (m : Manifest) (c : Config) : String → Prop
  | intro {side : Template.Side} {n method body template : String} {p : Pool} {t : Lineage}
      {x : Method} {sig : String}
      (htemplate : template = match side with
        | .before => sig ++ " \x7b " ++ c.bodyTag ++ " " ++ x.superCall ++ " \x7d"
        | .after => sig ++ " \x7b " ++ x.superCall ++ " " ++ c.bodyTag ++ " \x7d")
      (hr : m.request = .overriding side n method body) (hp : Pool.link m.classes = .ok p)
      (ht : p.get? n = some t) (hx : (Target.resolve t method).outcome = .ok x)
      (hsig : x.signature = .ok sig) : Writes m c template

/-- The body is put into this template: the text given with a call, or that of the override. -/
inductive Fills (m : Manifest) (c : Config) : String → Prop
  | atCall {side : Template.Side} {n method callee body text : String} {p : Pool} {t : Lineage}
      (hr : m.request = .atCall side n method callee body text)
      (hp : Pool.link m.classes = .ok p) (ht : p.get? n = some t) : Fills m c text
  | override {template : String} (h : Writes m c template) : Fills m c template

/-- A template has no place for the body if the placeholder is empty or does not occur in it. -/
def Missing (c : Config) (template : String) : Prop :=
  c.bodyTag = "" ∨ ¬ c.bodyTag.toList <:+: template.toList

/-- On a linked class, a template is written exactly if the two steps succeed that may fail. -/
theorem writes_iff (hr : m.request = .overriding side n method body)
    (hp : Pool.link m.classes = .ok p) (ht : p.get? n = some t) :
    Writes m c template ↔ ∃ x sig, (Target.resolve t method).outcome = .ok x ∧
      x.signature = .ok sig ∧ template = Template.override sig x.superCall c.bodyTag side := by
  constructor
  · rintro ⟨htemplate, hr', hp', ht', hx, hsig⟩
    obtain ⟨rfl, rfl, rfl, -⟩ := Request.overriding.inj (hr.symm.trans hr')
    obtain rfl := Except.ok.inj (hp.symm.trans hp')
    obtain rfl := Option.some.inj (ht.symm.trans ht')
    exact ⟨_, _, hx, hsig, htemplate.trans (Template.override_eq ..).symm⟩
  · rintro ⟨x, sig, hx, hsig, htemplate⟩
    exact .intro (htemplate.trans (Template.override_eq ..)) hr hp ht hx hsig

theorem Writes.unique (h : Writes m c template) (h' : Writes m c template') :
    template = template' := by
  obtain ⟨htemplate, hr, hp, ht, hx, hsig⟩ := h
  obtain ⟨x', sig', hx', hsig', rfl⟩ := (writes_iff hr hp ht).mp h'
  obtain rfl := Except.ok.inj (hx.symm.trans hx')
  obtain rfl := Except.ok.inj (hsig.symm.trans hsig')
  exact htemplate.trans (Template.override_eq ..).symm

/-- Of an override, the template that is written is the one that is filled. -/
theorem fills_iff_writes (hr : m.request = .overriding side n method body) :
    Fills m c template ↔ Writes m c template := by
  constructor
  · rintro (⟨hr', -, -⟩ | h)
    · exact nomatch hr.symm.trans hr'
    · exact h
  · exact .override

/-- A template is filled only if the class that is asked for has been linked. -/
theorem Fills.linked (h : Fills m c template) :
    ∃ p t, Pool.link m.classes = .ok p ∧ p.get? m.request.className = some t := by
  rcases h with ⟨hr, hp, ht⟩ | ⟨-, hr, hp, ht, -, -⟩
  · exact ⟨_, _, hp, by rw [hr]; exact ht⟩
  · exact ⟨_, _, hp, by rw [hr]; exact ht⟩

/-- Whether the resolver looks beyond the class is seen on the linked class. -/
theorem looksBeyond_iff (hp : Pool.link m.classes = .ok p) (ht : p.get? n = some t)
    (hr : m.request = .overriding side n method body) :
    m.LooksBeyond ↔ t.declared? method = none := by
  obtain ⟨hnodup, hlinked⟩ := Linking.link_ok hp
  have hden := hlinked.faithful n t ht
  have hown : ∀ d ∈ m.classes, d.name = n →
      (t.own.Lacks method ↔ ∀ x ∈ d.methods, x.name ≠ method) := by
    intro d hd hname
    have hfind := Walk.find?_of_mem hnodup hd
    rw [hname] at hfind
    rw [hden.own_eq hfind]
    simp only [Layer.Lacks, Declaration.layer, List.forall_mem_map, Method.name_declaredOn]
  rw [Lineage.declared?_eq_none_iff]
  constructor
  · rintro ⟨-, -, d, hd, hname, hlacks⟩
    rw [hr] at hname hlacks
    exact (hown d hd hname).mpr hlacks
  · intro hlacks
    obtain ⟨d, hd, hname⟩ := hden.declared
    refine ⟨⟨p, hp⟩, ⟨side, n, method, body, hr⟩, d, hd, ?_, ?_⟩
    · rw [hr]
      exact hname
    · rw [hr]
      exact (hown d hd hname).mp hlacks

theorem noted_resolve (hp : Pool.link m.classes = .ok p) (ht : p.get? n = some t)
    (hr : m.request = .overriding side n method body) :
    Noted m.lookedBeyond m.LooksBeyond (Target.resolve t method).records := by
  have hrecord : m.lookedBeyond = ⟨.debug,
      Target.name t ++ " declares no method " ++ method ++ ", scanning visible methods"⟩ := by
    rw [lookedBeyond, hr, show Target.name t = n from Pool.name_of_get? ht]
    rfl
  rw [Noted, looksBeyond_iff hp ht hr, Target.records_resolve, hrecord,
    show Target.declared? t method = t.declared? method from rfl]
  cases t.declared? method with
  | none => exact .inl ⟨rfl, rfl⟩
  | some x => exact .inr ⟨nofun, rfl⟩

theorem noted_fill (c : Config) (template body : String) :
    Noted (Template.tagMissing c.bodyTag) (Missing c template)
      (Template.fill template c.bodyTag body).records := by
  rw [Noted, Missing, ← Template.not_holds_iff]
  by_cases hholds : Template.holds template c.bodyTag = true
  · exact .inr ⟨not_not_intro hholds, Template.records_fill_of_holds hholds body⟩
  · exact .inl ⟨hholds, Template.records_fill_of_not_holds hholds body⟩

/-! ## The course of a plan -/

/-- The two courses of a plan: its outcome and its records. -/
inductive Course (m : Manifest) (c : Config) : Except Failure Summary → List Record → Prop
  /-- The plan fails, and no template has been filled by then. -/
  | fails {e : Failure} {looked : List Record} (hlooked : Noted m.lookedBeyond m.LooksBeyond looked)
      (hfills : ∀ template, ¬ Fills m c template) : Course m c (.error e) looked
  /-- A template is filled, and the plan is made. -/
  | ends {s : Summary} {looked created : List Record} {template : String}
      (hlooked : Noted m.lookedBeyond m.LooksBeyond looked)
      (hcreated : Noted (creating template) (Writes m c template) created)
      (hfills : ∀ template', Fills m c template' ↔ template' = template) :
      Course m c (.ok s) (looked ++ (created ++
        ((Template.fill template c.bodyTag m.request.body).records ++ [m.announced])))

theorem plan_of_unlinked (hp : Pool.link m.classes = .error e) (c : Config) :
    m.plan c = throw e := by
  rw [plan_eq, hp]
  rfl

theorem plan_of_undeclared (hp : Pool.link m.classes = .ok p)
    (ht : p.get? m.request.className = none) (c : Config) :
    m.plan c = throw (.moduleNotFound m.request.className) := by
  rw [plan_eq, hp, Attempt.ofExcept_ok_bind, Request.builder_of_none _ ht]
  rfl

/-- A plan of an override, for a class that is declared. -/
theorem plan_overriding (hr : m.request = .overriding side n method body)
    (hp : Pool.link m.classes = .ok p) (ht : p.get? n = some t) (c : Config) :
    m.plan c = (do
      let x ← Target.resolve t method
      let sig ← Attempt.ofExcept x.signature
      let template := Template.override sig x.superCall c.bodyTag side
      Attempt.ofLogged (.write .info ("Creating override " ++ template))
      m.request.finish c n template) := by
  rw [plan_eq, hp, Attempt.ofExcept_ok_bind, hr, Request.builder_overriding ht]
  simp only [bind_assoc, pure_bind, Request.finish_complete, Pool.name_of_get? ht]

theorem outcome_finish (r : Request) (c : Config) (n template : String) :
    ∃ s, (r.finish c n template).outcome = .ok s := ⟨_, rfl⟩

theorem records_finish (r : Request) (c : Config) (n template : String) :
    (r.finish c n template).records = (Template.fill template c.bodyTag r.body).records ++
      [⟨.info, "Planned insertion into " ++ n ++ "." ++ r.method⟩] := by
  rw [Request.finish, Attempt.records_bind_of_ok (Attempt.outcome_ofLogged _),
    Attempt.records_ofLogged]
  rfl

theorem announced_eq (hn : m.request.className = n) : m.announced =
    ⟨.info, "Planned insertion into " ++ n ++ "." ++ m.request.method⟩ := hn ▸ rfl

/-- The course of an override of a declared class. -/
theorem course_overriding (hr : m.request = .overriding side n method body)
    (hp : Pool.link m.classes = .ok p) (ht : p.get? n = some t) (c : Config) :
    Course m c (m.plan c).outcome (m.plan c).records := by
  have hlooked := noted_resolve hp ht hr
  rw [plan_overriding hr hp ht]
  cases hx : (Target.resolve t method).outcome with
  | error e =>
    rw [Attempt.outcome_bind_of_error hx, Attempt.records_bind_of_error hx]
    refine .fails hlooked fun template h => ?_
    obtain ⟨x, -, hx', -⟩ := (writes_iff hr hp ht).mp ((fills_iff_writes hr).mp h)
    exact nomatch hx.symm.trans hx'
  | ok x =>
    rw [Attempt.outcome_bind_of_ok hx, Attempt.records_bind_of_ok hx]
    cases hsig : x.signature with
    | error e =>
      rw [Attempt.outcome_bind_of_error (Attempt.outcome_ofExcept _),
        Attempt.records_bind_of_error (Attempt.outcome_ofExcept _), Attempt.records_ofExcept,
        List.append_nil]
      refine .fails hlooked fun template h => ?_
      obtain ⟨x', sig, hx', hsig', -⟩ := (writes_iff hr hp ht).mp ((fills_iff_writes hr).mp h)
      obtain rfl := Except.ok.inj (hx.symm.trans hx')
      exact nomatch hsig.symm.trans hsig'
    | ok sig =>
      have hwrites : Writes m c (Template.override sig x.superCall c.bodyTag side) :=
        (writes_iff hr hp ht).mpr ⟨x, sig, hx, hsig, rfl⟩
      obtain ⟨s, hs⟩ := outcome_finish m.request c n
        (Template.override sig x.superCall c.bodyTag side)
      rw [Attempt.ofExcept_ok_bind, Attempt.outcome_bind_of_ok (Attempt.outcome_ofLogged _), hs,
        Attempt.records_bind_of_ok (Attempt.outcome_ofLogged _), Attempt.records_ofLogged,
        records_finish, ← announced_eq (by rw [hr]; rfl)]
      refine .ends hlooked (.inl ⟨hwrites, rfl⟩) fun template => ?_
      rw [fills_iff_writes hr]
      exact ⟨fun h => h.unique hwrites, fun h => h ▸ hwrites⟩

/-- The course of a call in a declared class. -/
theorem course_atCall (hr : m.request = .atCall side n method callee body text)
    (hp : Pool.link m.classes = .ok p) (ht : p.get? n = some t) (c : Config) :
    Course m c (m.plan c).outcome (m.plan c).records := by
  have hdeclared : ∃ d ∈ m.classes, d.name = n :=
    (Linking.link_ok hp).2.get?_isSome_iff.mp ⟨t, ht⟩
  have hlooked : Noted m.lookedBeyond m.LooksBeyond [] := by
    refine .inr ⟨?_, rfl⟩
    rintro ⟨-, ⟨_, _, _, _, hr'⟩, -⟩
    exact nomatch hr.symm.trans hr'
  have hcreated : Noted (creating text) (Writes m c text) [] := by
    refine .inr ⟨?_, rfl⟩
    rintro ⟨-, hr', -, -, -, -⟩
    exact nomatch hr.symm.trans hr'
  have hfills : ∀ template, Fills m c template ↔ template = text := by
    intro template
    constructor
    · rintro (⟨hr', -, -⟩ | ⟨-, hr', -, -, -, -⟩)
      · obtain ⟨-, -, -, -, -, htext⟩ := Request.atCall.inj (hr.symm.trans hr')
        exact htext.symm
      · exact nomatch hr.symm.trans hr'
    · rintro rfl
      exact .atCall hr hp ht
  obtain ⟨s, hs⟩ := outcome_finish m.request c n text
  rw [plan_atCall hr hp hdeclared, hs, records_finish, ← announced_eq (by rw [hr]; rfl)]
  have hends := Course.ends (s := s) hlooked hcreated hfills
  exact hends

/-- Every plan takes one of the two courses. -/
theorem course (m : Manifest) (c : Config) : Course m c (m.plan c).outcome (m.plan c).records := by
  cases hp : Pool.link m.classes with
  | error e =>
    have hlooked : ¬ m.LooksBeyond := fun ⟨⟨_, hp'⟩, _⟩ => nomatch hp.symm.trans hp'
    rw [plan_of_unlinked hp]
    refine .fails (.inr ⟨hlooked, rfl⟩) fun template h => ?_
    obtain ⟨p', -, hp', -⟩ := h.linked
    exact nomatch hp.symm.trans hp'
  | ok p =>
    cases ht : p.get? m.request.className with
    | none =>
      have hlooked : ¬ m.LooksBeyond := by
        rintro ⟨-, -, d, hd, hname, -⟩
        obtain ⟨t, ht'⟩ := (Linking.link_ok hp).2.get?_isSome_iff.mpr ⟨d, hd, hname⟩
        exact nomatch ht.symm.trans ht'
      rw [plan_of_undeclared hp ht]
      refine .fails (.inr ⟨hlooked, rfl⟩) fun template h => ?_
      obtain ⟨p', t, hp', ht'⟩ := h.linked
      obtain rfl := Except.ok.inj (hp.symm.trans hp')
      exact nomatch ht.symm.trans ht'
    | some t =>
      cases hr : m.request with
      | atCall side n method callee body text =>
        rw [hr] at ht
        exact course_atCall hr hp ht c
      | overriding side n method body =>
        rw [hr] at ht
        exact course_overriding hr hp ht c

/-! ## The trace -/

section

variable {r : Except Failure Summary} {rs : List Record}

/-- What is on record, and when. -/
theorem Course.mem_iff (h : Course m c r rs) {entry : Record} :
    entry ∈ rs ↔ (entry = m.lookedBeyond ∧ m.LooksBeyond) ∨
      (∃ template, entry = creating template ∧ Writes m c template) ∨
      (entry = Template.tagMissing c.bodyTag ∧ ∃ template, Fills m c template ∧ Missing c template) ∨
      (entry = m.announced ∧ ∃ s, r = .ok s) := by
  cases h with
  | fails hlooked hfills =>
    have hwrites : ¬ ∃ template, entry = creating template ∧ Writes m c template :=
      fun ⟨template, _, h⟩ => hfills template (.override h)
    have hmissing : ¬ ∃ template, Fills m c template ∧ Missing c template :=
      fun ⟨template, h, _⟩ => hfills template h
    rw [hlooked.mem_iff]
    simp only [hwrites, hmissing, reduceCtorEq, exists_false, and_false, or_false]
  | @ends s looked created template hlooked hcreated hfills =>
    have hwrites : (∃ template', entry = creating template' ∧ Writes m c template') ↔
        entry = creating template ∧ Writes m c template := by
      constructor
      · rintro ⟨template', he, h⟩
        obtain rfl := (hfills template').mp (.override h)
        exact ⟨he, h⟩
      · exact fun h => ⟨template, h⟩
    have hmissing : (∃ template', Fills m c template' ∧ Missing c template') ↔
        Missing c template := by
      simp only [hfills, exists_eq_left]
    rw [hwrites, hmissing]
    simp only [List.mem_append, List.mem_singleton, hlooked.mem_iff, hcreated.mem_iff,
      (noted_fill c template m.request.body).mem_iff, Except.ok.injEq, exists_eq', and_true]

/-- The records stand in the order of the stages. -/
theorem Course.sublist (h : Course m c r rs) : ∃ template, rs.Sublist
    [m.lookedBeyond, creating template, Template.tagMissing c.bodyTag, m.announced] := by
  cases h with
  | fails hlooked hfills =>
    exact ⟨"", hlooked.sublist.trans (List.cons_sublist_cons.mpr (List.nil_sublist _))⟩
  | @ends s looked created template hlooked hcreated hfills =>
    have hfilled := (noted_fill c template m.request.body).sublist
    exact ⟨template, hlooked.sublist.append (hcreated.sublist.append
      (hfilled.append (List.Sublist.refl [m.announced])))⟩

/-- The record of a template cannot be taken for that of a plan. -/
theorem creating_ne_announced (template : String) (m : Manifest) :
    creating template ≠ m.announced := by
  intro h
  have hfirst := congrArg (fun r => r.message.toList.head?) h
  simp [creating, announced] at hfirst

/-- The others have levels of their own. -/
theorem nodup_entries (m : Manifest) (c : Config) (template : String) :
    [m.lookedBeyond, creating template, Template.tagMissing c.bodyTag, m.announced].Nodup := by
  have hinfo := creating_ne_announced template m
  simp only [List.nodup_cons, List.mem_cons, List.not_mem_nil, or_false, not_or, hinfo]
  simp [lookedBeyond, creating, Template.tagMissing, announced]

theorem Course.looked_iff (h : Course m c r rs) : m.lookedBeyond ∈ rs ↔ m.LooksBeyond := by
  rw [h.mem_iff]
  simp [lookedBeyond, creating, Template.tagMissing, announced]

theorem Course.created_iff (h : Course m c r rs) :
    creating template ∈ rs ↔ Writes m c template := by
  have hinj : ∀ template', creating template = creating template' ↔ template = template' := by
    intro template'
    rw [creating, creating, Record.mk.injEq, String.append_right_inj, and_iff_right rfl]
  rw [h.mem_iff]
  simp only [hinj, creating_ne_announced, false_and, or_false, exists_eq_left']
  simp [lookedBeyond, creating, Template.tagMissing]

theorem Course.missing_iff (h : Course m c r rs) : Template.tagMissing c.bodyTag ∈ rs ↔
    ∃ template, Fills m c template ∧ Missing c template := by
  rw [h.mem_iff]
  simp [lookedBeyond, creating, Template.tagMissing, announced]

theorem Course.planned_iff (h : Course m c r rs) : m.announced ∈ rs ↔ ∃ s, r = .ok s := by
  have hinfo : ∀ template, m.announced ≠ creating template := fun template =>
    (creating_ne_announced template m).symm
  rw [h.mem_iff]
  simp only [hinfo, false_and, exists_false, false_or]
  simp [lookedBeyond, Template.tagMissing, announced]

/-- A plan whose template is filled is made. -/
theorem Course.exists_ok (h : Course m c r rs) (hfills : Fills m c template) : ∃ s, r = .ok s := by
  cases h with
  | fails _ hnone => exact absurd hfills (hnone template)
  | ends _ _ _ => exact ⟨_, rfl⟩

end

/-- What the records `rs` of a plan with the outcome `r` say. -/
structure Trace (m : Manifest) (c : Config) (r : Except Failure Summary) (rs : List Record) :
    Prop where
  /-- There are four records at most, in the order of the stages, and none is there twice. -/
  order : ∃ template, rs.Sublist
    [m.lookedBeyond, creating template, Template.tagMissing c.bodyTag, m.announced]
  once : rs.Nodup
  /-- The resolver's is there if an override is asked for that its declared class lacks. -/
  looked : m.lookedBeyond ∈ rs ↔ m.LooksBeyond
  /-- A template is there if it is the one written for an override. -/
  created : ∀ template, creating template ∈ rs ↔ Writes m c template
  /-- That the placeholder is missing is there if a template without it is filled. -/
  missing : Template.tagMissing c.bodyTag ∈ rs ↔
    ∃ template, Fills m c template ∧ Missing c template
  /-- The plan is there if there is one. -/
  planned : m.announced ∈ rs ↔ ∃ s, r = .ok s
  /-- After a template or a plan nothing fails. -/
  settled : (∃ template, creating template ∈ rs) ∨ m.announced ∈ rs → ∃ s, r = .ok s
  /-- Of a plan that fails there is the resolver's record at most. -/
  failed : ∀ e, r = .error e → rs = [] ∨ rs = [m.lookedBeyond]

/-- The trace of a plan: which records there are, in which order, and when. -/
theorem trace_plan (m : Manifest) (c : Config) :
    Trace m c (m.plan c).outcome (m.plan c).records := by
  have hcourse := course m c
  obtain ⟨template, hsub⟩ := hcourse.sublist
  refine
    { order := ⟨template, hsub⟩
      once := hsub.nodup (nodup_entries m c template)
      looked := hcourse.looked_iff
      created := fun template => hcourse.created_iff
      missing := hcourse.missing_iff
      planned := hcourse.planned_iff
      settled := ?_
      failed := ?_ }
  · rintro (⟨template, h⟩ | h)
    · exact hcourse.exists_ok (.override (hcourse.created_iff.mp h))
    · exact hcourse.planned_iff.mp h
  · intro e he
    rw [he] at hcourse
    cases hcourse with
    | fails hlooked _ => exact hlooked.elim (fun h => .inr h.2) fun h => .inl h.2

/-- An inherited method, and an empty placeholder. -/
example : (plan ⟨[⟨"B", some "A", []⟩, ⟨"A", none, [.named "f"]⟩],
      .overriding .before "B" "f" "x();"⟩ { bodyTag := "" }).records.map Record.level =
    [.debug, .info, .warn, .info] := by cbv

end Manifest

end Splice
