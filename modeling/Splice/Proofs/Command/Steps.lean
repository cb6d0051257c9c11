/-
  Which failure an order ends with, and what is left to be shown of it.

  Eight steps of an order can fail, those that look at the configuration file only if one is named.
  What it is for a step to fail is said for each of them by itself (`Fails`), and which failure is
  reported by the order of the steps alone: that of the first one that fails (`FailsFirst`).

  1. **One step after the other** — `Reports steps x` ties an operation to the steps it takes: it
     fails exactly as the first of them that fails.  A step that is not taken or does not fail is
     left out (`Reports.pass`), and at one that fails the operation ends (`Reports.stop`).  From
     these two an operation that begins with a step is taken apart at it, whether the step's own
     failure is reported (`Reports.step`) or told in other words (`Reports.told`).

  2. **The stages** — the configuration, the manifest and the plan each go through some of the
     steps, and put one behind the other they go through all of them (`reports_run`).

  3. **What is shown** — a failure prints nothing, and without one the plan is printed.  Where no
     configuration file is named, the one discovered or else the default one counts, and files that
     are no configuration make no difference to it (`carriedOut_run`).
-/
import Splice.CommandLine
import Splice.Proofs.Command
import Splice.Proofs.Config.Discovery
import Splice.Proofs.Plan.Trace

namespace Splice.PlanOrder

variable {α β : Type} {o : PlanOrder} {read : Config.Reading} {cwd : Except OsError String}

/-! ## The steps -/

/-- The steps of an order that can fail. -/
inductive Step
  | readConfig
  | parseConfig
  | readManifest
  | parseManifest
  | link
  | findClass
  | resolve
  | write
deriving DecidableEq, Repr

/-- The steps one after the other. -/
def Step.all : List Step :=
  [.readConfig, .parseConfig, .readManifest, .parseManifest, .link, .findClass, .resolve, .write]

/-- A step fails, and with what. -/
inductive Fails (o : PlanOrder) (read : Config.Reading) : Step → Failure → Prop
  /-- The configuration file that is named cannot be read. -/
  | readConfig {path : String} {e : OsError} (ho : o.config = some path)
      (hread : read path = .error e) : Fails o read .readConfig (.io e)
  /-- It can be read and is no configuration. -/
  | parseConfig {path text : String} {e : DocumentError} (ho : o.config = some path)
      (hread : read path = .ok text)
      (hparse : Toml.decode (Config.ofValue .toml) text = .error e) :
      Fails o read .parseConfig
        (.configuration ("Failed to parse " ++ path ++ ": " ++ (Failure.toml e).message))
  /-- The manifest file cannot be read. -/
  | readManifest {e : OsError} (hread : read o.manifest = .error e) :
      Fails o read .readManifest (.manifestUnreadable o.manifest)
  /-- It can be read and is no manifest. -/
  | parseManifest {text : String} {e : DocumentError} (hread : read o.manifest = .ok text)
      (hparse : Toml.decode (Manifest.ofValue .toml) text = .error e) :
      Fails o read .parseManifest (.manifestUnparsable o.manifest)
  /-- The declarations cannot be linked. -/
  | link {m : Manifest} {e : Failure} (hm : Manifest.load read o.manifest = .ok m)
      (he : Pool.link m.classes = .error e) : Fails o read .link e
  /-- The class that is asked for is not declared. -/
  | findClass {m : Manifest} {p : Pool} (hm : Manifest.load read o.manifest = .ok m)
      (hp : Pool.link m.classes = .ok p) (ht : p.get? m.request.className = none) :
      Fails o read .findClass (.moduleNotFound m.request.className)
  /-- The method of an override cannot be resolved. -/
  | resolve {m : Manifest} {side : Template.Side} {n method body : String} {p : Pool} {t : Lineage}
      {e : Failure} (hm : Manifest.load read o.manifest = .ok m)
      (hr : m.request = .overriding side n method body) (hp : Pool.link m.classes = .ok p)
      (ht : p.get? n = some t) (he : (Target.resolve t method).outcome = .error e) :
      Fails o read .resolve e
  /-- The method that is resolved cannot be written as text. -/
  | write {m : Manifest} {side : Template.Side} {n method body : String} {p : Pool} {t : Lineage}
      {x : Method} {e : Failure} (hm : Manifest.load read o.manifest = .ok m)
      (hr : m.request = .overriding side n method body) (hp : Pool.link m.classes = .ok p)
      (ht : p.get? n = some t) (hx : (Target.resolve t method).outcome = .ok x)
      (he : x.signature = .error e) : Fails o read .write e

/-- The first of the steps that fails, fails with this. -/
def FailsFirst (o : PlanOrder) (read : Config.Reading) (steps : List Step) (e : Failure) : Prop :=
  ∃ before s after, steps = before ++ s :: after ∧ Fails o read s e ∧
    ∀ s' ∈ before, ∀ e', ¬ Fails o read s' e'

section

variable {s : Step} {steps : List Step} {e : Failure}

theorem not_failsFirst_nil : ¬ FailsFirst o read [] e := by
  rintro ⟨before, s, after, heq, -⟩
  exact List.append_ne_nil_of_right_ne_nil before (List.cons_ne_nil s after) heq.symm

/-- Either the step at the front fails, or it does not and what follows counts. -/
theorem failsFirst_cons_iff : FailsFirst o read (s :: steps) e ↔
    Fails o read s e ∨ ((∀ e', ¬ Fails o read s e') ∧ FailsFirst o read steps e) := by
  constructor
  · rintro ⟨before, s', after, heq, hfails, hbefore⟩
    cases before with
    | nil =>
      obtain ⟨rfl, -⟩ := List.cons.inj heq
      exact .inl hfails
    | cons b before =>
      obtain ⟨rfl, hsteps⟩ := List.cons.inj heq
      have hpass := hbefore s List.mem_cons_self
      exact .inr ⟨hpass, before, s', after, hsteps, hfails, fun s'' h =>
        hbefore s'' (List.mem_cons_of_mem s h)⟩
  · rintro (hfails | ⟨hpass, before, s', after, rfl, hfails, hbefore⟩)
    · exact ⟨[], s, steps, rfl, hfails, fun _ h => absurd h List.not_mem_nil⟩
    · refine ⟨s :: before, s', after, rfl, hfails, fun s'' h => ?_⟩
      rcases List.mem_cons.mp h with rfl | h
      · exact hpass
      · exact hbefore s'' h

/-- If a step fails, there is one that fails first. -/
theorem exists_failsFirst (hs : s ∈ steps) (h : Fails o read s e) :
    ∃ e', FailsFirst o read steps e' := by
  induction steps with
  | nil => exact absurd hs List.not_mem_nil
  | cons b steps ih =>
    by_cases hb : ∃ e', Fails o read b e'
    · obtain ⟨e', he'⟩ := hb
      exact ⟨e', failsFirst_cons_iff.mpr (.inl he')⟩
    · have hpass : ∀ e', ¬ Fails o read b e' := not_exists.mp hb
      rcases List.mem_cons.mp hs with rfl | hs
      · exact absurd h (hpass e)
      · obtain ⟨e', he'⟩ := ih hs
        exact ⟨e', failsFirst_cons_iff.mpr (.inr ⟨hpass, he'⟩)⟩

theorem Step.mem_all (s : Step) : s ∈ Step.all := by cases s <;> decide

end

/-! ## One step after the other -/

/-- What fails, fails as the first of the steps that does. -/
def Reports (o : PlanOrder) (read : Config.Reading) (steps : List Step) (r : Except Failure α) :
    Prop :=
  ∀ e, r = .error e ↔ FailsFirst o read steps e

namespace Reports

variable {s : Step} {steps : List Step} {r : Except Failure α} {e : Failure}

theorem done (a : α) : Reports o read [] (.ok a) := fun _ => iff_of_false nofun not_failsFirst_nil

/-- A step that does not fail makes no difference. -/
theorem pass (h : ∀ e, ¬ Fails o read s e) (hr : Reports o read steps r) :
    Reports o read (s :: steps) r := by
  intro e
  rw [failsFirst_cons_iff, hr e]
  constructor
  · exact fun hfirst => .inr ⟨h, hfirst⟩
  · rintro (hfails | ⟨-, hfirst⟩)
    · exact absurd hfails (h e)
    · exact hfirst

/-- Nothing that would follow a step that fails makes a difference. -/
theorem stop (h : ∀ e', Fails o read s e' ↔ e = e') :
    Reports o read (s :: steps) (.error e : Except Failure α) := by
  intro e'
  rw [failsFirst_cons_iff, h e', Except.error.injEq]
  constructor
  · exact .inl
  · rintro (heq | ⟨hpass, -⟩)
    · exact heq
    · exact absurd ((h e).mpr rfl) (hpass e)

/-- An operation that begins with a step. -/
theorem step {x : Attempt α} {f : α → Attempt β}
    (hx : ∀ e, Fails o read s e ↔ x.outcome = .error e)
    (hf : ∀ a, x.outcome = .ok a → Reports o read steps (f a).outcome) :
    Reports o read (s :: steps) (x >>= f).outcome := by
  cases ho : x.outcome with
  | error e =>
    rw [Attempt.outcome_bind_of_error ho]
    refine .stop fun e' => ?_
    rw [hx e', ho, Except.error.injEq]
  | ok a =>
    rw [Attempt.outcome_bind_of_ok ho]
    refine .pass (fun e h => ?_) (hf a ho)
    exact nomatch ho.symm.trans ((hx e).mp h)

/-- A step that tells the fault of a part in its own words. -/
theorem told {ε : Type} {x : Except ε β} {word : ε → Failure}
    (hx : ∀ e, Fails o read s e ↔ ∃ d, x = .error d ∧ word d = e)
    (hstop : ∀ d, x = .error d → r = .error (word d))
    (hpass : ∀ b, x = .ok b → Reports o read steps r) : Reports o read (s :: steps) r := by
  cases hb : x with
  | error d =>
    rw [hstop d hb]
    refine .stop fun e => ?_
    rw [hx e, hb]
    simp only [Except.error.injEq, exists_eq_left']
  | ok b =>
    refine .pass (fun e h => ?_) (hpass b hb)
    obtain ⟨d, hd, -⟩ := (hx e).mp h
    exact nomatch hb.symm.trans hd

/-- Changing the answer changes no failure. -/
theorem map {x : Attempt α} (h : Reports o read steps x.outcome) (g : α → β) :
    Reports o read steps (x >>= fun a => pure (g a)).outcome := by
  intro e
  rw [← h e]
  cases hx : x.outcome with
  | error e' =>
    rw [Attempt.outcome_bind_of_error hx, Except.error.injEq, Except.error.injEq]
  | ok a =>
    rw [Attempt.outcome_bind_of_ok hx]
    exact iff_of_false nofun nofun

/-- There is an answer exactly if none of the steps fails. -/
theorem exists_ok_iff (h : Reports o read steps r) :
    (∃ a, r = .ok a) ↔ ∀ s ∈ steps, ∀ e, ¬ Fails o read s e := by
  constructor
  · rintro ⟨a, ha⟩ s hs e hfails
    obtain ⟨e', hfirst⟩ := exists_failsFirst hs hfails
    exact nomatch ha.symm.trans ((h e').mpr hfirst)
  · intro hpass
    cases hr : r with
    | ok a => exact ⟨a, rfl⟩
    | error e =>
      obtain ⟨before, s, after, rfl, hfails, -⟩ := (h e).mp hr
      have hs : s ∈ before ++ s :: after := List.mem_append_right before List.mem_cons_self
      exact absurd hfails (hpass s hs e)

end Reports

/-! ## The stages -/

section

variable {steps : List Step} {m : Manifest} {p : Pool} {t : Lineage} {x : Method} {e : Failure}
  {path text n method body : String} {side : Template.Side}

/-! ### The configuration -/

theorem fails_readConfig_iff (ho : o.config = some path) :
    Fails o read .readConfig e ↔ ∃ d, read path = .error d ∧ .io d = e := by
  constructor
  · intro h
    cases h with
    | readConfig ho' hread =>
      obtain rfl := Option.some.inj (ho.symm.trans ho')
      exact ⟨_, hread, rfl⟩
  · rintro ⟨d, hread, rfl⟩
    exact .readConfig ho hread

theorem fails_parseConfig_iff (ho : o.config = some path) (hread : read path = .ok text) :
    Fails o read .parseConfig e ↔ ∃ d, Toml.decode (Config.ofValue .toml) text = .error d ∧
      .configuration ("Failed to parse " ++ path ++ ": " ++ (Failure.toml d).message) = e := by
  constructor
  · intro h
    cases h with
    | parseConfig ho' hread' hparse =>
      obtain rfl := Option.some.inj (ho.symm.trans ho')
      obtain rfl := Except.ok.inj (hread.symm.trans hread')
      exact ⟨_, hparse, rfl⟩
  · rintro ⟨d, hparse, rfl⟩
    exact .parseConfig ho hread hparse

theorem not_fails_config (ho : o.config = none) :
    (¬ Fails o read .readConfig e) ∧ ¬ Fails o read .parseConfig e := by
  constructor
  · intro h
    cases h with
    | readConfig ho' _ => exact nomatch ho.symm.trans ho'
  · intro h
    cases h with
    | parseConfig ho' _ _ => exact nomatch ho.symm.trans ho'

theorem Reports.configuration {f : Config → Attempt α}
    (hf : ∀ c, Reports o read steps (f c).outcome) :
    Reports o read (.readConfig :: .parseConfig :: steps)
      (o.configuration read cwd >>= f).outcome := by
  cases ho : o.config with
  | none =>
    rw [Attempt.outcome_bind_of_ok (outcome_configuration ho)]
    exact .pass (fun e => (not_fails_config ho).1) (.pass (fun e => (not_fails_config ho).2) (hf _))
  | some path =>
    rw [configuration_named ho]
    refine .told (fun e => fails_readConfig_iff ho) (fun d hread => ?_) fun text hread => ?_
    · rw [Config.load, hread]
      rfl
    · refine .told (fun e => fails_parseConfig_iff ho hread) (fun d hparse => ?_) fun c hparse => ?_
      · rw [Config.load, hread]
        simp only [Config.parse, hparse]
        rfl
      · have hok : (Config.load read path).outcome = .ok c.repaired := by
          rw [Config.load, hread]
          simp only [Config.parse, hparse]
          rfl
        rw [Attempt.outcome_bind_of_ok hok]
        exact hf c.repaired

/-! ### The manifest -/

theorem fails_readManifest_iff : Fails o read .readManifest e ↔
    ∃ d, read o.manifest = .error d ∧ .manifestUnreadable o.manifest = e := by
  constructor
  · intro h
    cases h with
    | readManifest hread => exact ⟨_, hread, rfl⟩
  · rintro ⟨d, hread, rfl⟩
    exact .readManifest hread

theorem fails_parseManifest_iff (hread : read o.manifest = .ok text) :
    Fails o read .parseManifest e ↔ ∃ d, Toml.decode (Manifest.ofValue .toml) text = .error d ∧
      .manifestUnparsable o.manifest = e := by
  constructor
  · intro h
    cases h with
    | parseManifest hread' hparse =>
      obtain rfl := Except.ok.inj (hread.symm.trans hread')
      exact ⟨_, hparse, rfl⟩
  · rintro ⟨d, hparse, rfl⟩
    exact .parseManifest hread hparse

theorem Reports.manifest {f : Manifest → Attempt α}
    (hf : ∀ m, Manifest.load read o.manifest = .ok m → Reports o read steps (f m).outcome) :
    Reports o read (.readManifest :: .parseManifest :: steps)
      (Attempt.ofExcept (Manifest.load read o.manifest) >>= f).outcome := by
  refine .told (fun e => fails_readManifest_iff) (fun d hread => ?_) fun text hread => ?_
  · rw [Manifest.load, hread]
    rfl
  · refine .told (fun e => fails_parseManifest_iff hread) (fun d hparse => ?_) fun m hparse => ?_
    · simp only [Manifest.load, hread, hparse]
      rfl
    · have hload : Manifest.load read o.manifest = .ok m := by
        simp only [Manifest.load, hread, hparse]
      rw [hload, Attempt.ofExcept_ok_bind]
      exact hf m hload

/-! ### The plan -/

theorem fails_link_iff (hm : Manifest.load read o.manifest = .ok m) :
    Fails o read .link e ↔ Pool.link m.classes = .error e := by
  constructor
  · intro h
    cases h with
    | link hm' he =>
      obtain rfl := Except.ok.inj (hm.symm.trans hm')
      exact he
  · exact .link hm

theorem fails_findClass_iff (hm : Manifest.load read o.manifest = .ok m)
    (hp : Pool.link m.classes = .ok p) : Fails o read .findClass e ↔
      p.get? m.request.className = none ∧ .moduleNotFound m.request.className = e := by
  constructor
  · intro h
    cases h with
    | findClass hm' hp' ht =>
      obtain rfl := Except.ok.inj (hm.symm.trans hm')
      obtain rfl := Except.ok.inj (hp.symm.trans hp')
      exact ⟨ht, rfl⟩
  · rintro ⟨ht, rfl⟩
    exact .findClass hm hp ht

theorem fails_resolve_iff (hm : Manifest.load read o.manifest = .ok m)
    (hr : m.request = .overriding side n method body) (hp : Pool.link m.classes = .ok p)
    (ht : p.get? n = some t) :
    Fails o read .resolve e ↔ (Target.resolve t method).outcome = .error e := by
  constructor
  · intro h
    cases h with
    | resolve hm' hr' hp' ht' he =>
      obtain rfl := Except.ok.inj (hm.symm.trans hm')
      obtain ⟨-, rfl, rfl, -⟩ := Request.overriding.inj (hr.symm.trans hr')
      obtain rfl := Except.ok.inj (hp.symm.trans hp')
      obtain rfl := Option.some.inj (ht.symm.trans ht')
      exact he
  · exact .resolve hm hr hp ht

theorem fails_write_iff (hm : Manifest.load read o.manifest = .ok m)
    (hr : m.request = .overriding side n method body) (hp : Pool.link m.classes = .ok p)
    (ht : p.get? n = some t) (hx : (Target.resolve t method).outcome = .ok x) :
    Fails o read .write e ↔ x.signature = .error e := by
  constructor
  · intro h
    cases h with
    | write hm' hr' hp' ht' hx' he =>
      obtain rfl := Except.ok.inj (hm.symm.trans hm')
      obtain ⟨-, rfl, rfl, -⟩ := Request.overriding.inj (hr.symm.trans hr')
      obtain rfl := Except.ok.inj (hp.symm.trans hp')
      obtain rfl := Option.some.inj (ht.symm.trans ht')
      obtain rfl := Except.ok.inj (hx.symm.trans hx')
      exact he
  · exact .write hm hr hp ht hx

/-- At a call no method is resolved and none is written. -/
theorem not_fails_override {callee : String} (hm : Manifest.load read o.manifest = .ok m)
    (hr : m.request = .atCall side n method callee body text) :
    (¬ Fails o read .resolve e) ∧ ¬ Fails o read .write e := by
  constructor
  · intro h
    cases h with
    | resolve hm' hr' _ _ _ =>
      obtain rfl := Except.ok.inj (hm.symm.trans hm')
      exact nomatch hr.symm.trans hr'
  · intro h
    cases h with
    | write hm' hr' _ _ _ _ =>
      obtain rfl := Except.ok.inj (hm.symm.trans hm')
      exact nomatch hr.symm.trans hr'

theorem reports_overriding (hm : Manifest.load read o.manifest = .ok m)
    (hr : m.request = .overriding side n method body) (hp : Pool.link m.classes = .ok p)
    (ht : p.get? n = some t) (c : Config) :
    Reports o read [.resolve, .write] (m.plan c).outcome := by
  rw [Manifest.plan_overriding hr hp ht]
  refine .step (fun e => fails_resolve_iff hm hr hp ht) fun x hx => ?_
  refine .step (fun e => fails_write_iff hm hr hp ht hx) fun sig _ => ?_
  exact .done _

theorem reports_atCall {callee : String} (hm : Manifest.load read o.manifest = .ok m)
    (hr : m.request = .atCall side n method callee body text) (hp : Pool.link m.classes = .ok p)
    (ht : p.get? n = some t) (c : Config) :
    Reports o read [.resolve, .write] (m.plan c).outcome := by
  have hdeclared : ∃ d ∈ m.classes, d.name = n :=
    (Linking.link_ok hp).2.get?_isSome_iff.mp ⟨t, ht⟩
  rw [Manifest.plan_atCall hr hp hdeclared]
  exact .pass (fun e => (not_fails_override hm hr).1)
    (.pass (fun e => (not_fails_override hm hr).2) (.done _))

theorem reports_plan (hm : Manifest.load read o.manifest = .ok m) (c : Config) :
    Reports o read [.link, .findClass, .resolve, .write] (m.plan c).outcome := by
  cases hp : Pool.link m.classes with
  | error e =>
    rw [Manifest.plan_of_unlinked hp, Attempt.outcome_throw]
    refine .stop fun e' => ?_
    rw [fails_link_iff hm, hp, Except.error.injEq]
  | ok p =>
    have hlinked : ∀ e, ¬ Fails o read .link e := fun e h =>
      nomatch hp.symm.trans ((fails_link_iff hm).mp h)
    refine .pass hlinked ?_
    cases ht : p.get? m.request.className with
    | none =>
      rw [Manifest.plan_of_undeclared hp ht, Attempt.outcome_throw]
      refine .stop fun e' => ?_
      rw [fails_findClass_iff hm hp, and_iff_right ht]
    | some t =>
      have hfound : ∀ e, ¬ Fails o read .findClass e := fun e h =>
        nomatch ht.symm.trans ((fails_findClass_iff hm hp).mp h).1
      refine .pass hfound ?_
      cases hr : m.request with
      | atCall side n method callee body text =>
        rw [hr] at ht
        exact reports_atCall hm hr hp ht c
      | overriding side n method body =>
        rw [hr] at ht
        exact reports_overriding hm hr hp ht c

end

/-- An order fails as the first of all steps that does. -/
theorem reports_run (o : PlanOrder) (read : Config.Reading) (cwd : Except OsError String) :
    Reports o read Step.all (o.run read cwd).outcome :=
  .configuration fun c => .manifest fun _ hm => (reports_plan hm c).map _

/-! ## What is shown -/

/-- What comes of carrying out an order, and what is left to be shown of it. -/
structure CarriedOut (o : PlanOrder) (read : Config.Reading) (cwd : Except OsError String)
    (r : Except Failure String) (left : CommandLine.Outcome) : Prop where
  /-- The failure is that of the first step that fails. -/
  failed : ∀ e, r = .error e ↔ FailsFirst o read Step.all e
  /-- If none does there is a text: that of the plan, in the format that is asked for or else the
      configured one, with its last line ended. -/
  finished : (∃ text, r = .ok text) ↔ ∀ s e, ¬ Fails o read s e
  planned : ∀ text, r = .ok text ↔ ∃ c m s, (o.configuration read cwd).outcome = .ok c ∧
    Manifest.load read o.manifest = .ok m ∧ (m.plan c).outcome = .ok s ∧
    text = s.render (o.format.getD c.defaultFormat) ++ "\n"
  /-- The text is printed.  Of a failure nothing is printed. -/
  printed : ∀ text, r = .ok text → left = ⟨0, text, none⟩
  silent : ∀ e, r = .error e → left = ⟨1, "", some e.message⟩
  /-- If no configuration file is named there is a configuration whatever the files are: the one
      discovered from the working directory, or else the defaults.  Spoiled files do no more than
      add to the records. -/
  configured : o.config = none → ∃ c, (o.configuration read cwd).outcome = .ok c ∧
    (∀ dir, cwd = .ok dir → c = (Config.discover read dir).value.getD {}) ∧
    (∀ e, cwd = .error e → c = {}) ∧
    ∀ read', Config.Sifts read read' → (o.configuration read' cwd).outcome = .ok c ∧
      (o.configuration read' cwd).records.Sublist (o.configuration read cwd).records
  /-- A file that is named is the only one that counts. -/
  named : ∀ path, o.config = some path → o.configuration read cwd = Config.load read path

/-- What is left of a call that carries out an order is its text or its failure. -/
theorem left_run {φ : Type} (disk : Files.Disk φ) (s : φ) (cwd : Except OsError String)
    (o : PlanOrder) : (CommandLine.Command.run disk cwd s (.plan o)).value.1 =
      match (o.run (disk.read s) cwd).outcome with
      | .ok text => ⟨0, text, none⟩
      | .error e => ⟨1, "", some e.message⟩ := by
  rw [CommandLine.Command.run, Logged.value_bind]
  show _ = match (o.run (disk.read s) cwd).run.value with
    | .ok text => _
    | .error e => _
  cases (o.run (disk.read s) cwd).run.value <;> rfl

/-- Every order is carried out like this, on every file system and in every directory. -/
theorem carriedOut_run {φ : Type} (disk : Files.Disk φ) (s : φ) (cwd : Except OsError String)
    (o : PlanOrder) :
    CarriedOut o (disk.read s) cwd (o.run (disk.read s) cwd).outcome
      (CommandLine.Command.run disk cwd s (.plan o)).value.1 := by
  have hreports := reports_run o (disk.read s) cwd
  have hleft := left_run disk s cwd o
  refine
    { failed := hreports
      finished := ?_
      planned := fun text => outcome_run_eq_ok_iff
      printed := ?_
      silent := ?_
      configured := ?_
      named := fun path => configuration_named }
  · rw [hreports.exists_ok_iff]
    exact ⟨fun h s => h s s.mem_all, fun h s _ => h s⟩
  · intro text htext
    rw [hleft, htext]
  · intro e he
    rw [hleft, he]
  · intro ho
    refine ⟨_, outcome_configuration ho, ?_, ?_, fun read' hsifts => ?_⟩
    · rintro dir rfl
      exact Config.value_current_ok (disk.read s) dir
    · rintro e rfl
      exact Config.value_current_error (disk.read s) e
    · have hquieter := hsifts.current cwd
      rw [outcome_configuration ho, hquieter.value]
      refine ⟨rfl, ?_⟩
      rw [records_configuration ho, records_configuration ho]
      exact hquieter.records

/-- A file that is no configuration is passed over, and the manifest is missed. -/
example : (run { manifest := "m" }
      (fun path => if path = ".weavekit.toml" then .ok "x" else .error .notFound)
      (.ok "")).outcome = .error (.manifestUnreadable "m") := by rfl

end Splice.PlanOrder
