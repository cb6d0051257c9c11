/-
  What carrying out an order comes to, and what becomes of the body on the way.

  1. **An order** — an order is carried out in four steps: the configuration, the manifest, the
     plan, and the text that is printed.  A text is printed exactly if each of the first three has
     given what the next one needs (`PlanOrder.outcome_run_eq_ok_iff`).  A configuration that is
     named is loaded, and without one there always is a configuration
     (`PlanOrder.configuration_named`, `PlanOrder.outcome_configuration`); either way it can be used
     (`PlanOrder.usable_configuration`).

  2. **The body** — three parts of the program have a hand in it: the configuration, which gives a
     placeholder that is not empty; the builder, which writes an override with the placeholder that
     it looks for afterwards; and the filling of the template.  Together they lose no body without
     saying so, and the body of a planned override not at all (`body_kept_or_reported`).
-/
import Splice.Command
import Splice.Proofs.Builder.Delivery
import Splice.Proofs.Config
import Splice.Proofs.Plan

namespace Splice

variable {read : Config.Reading} {cwd : Except OsError String} {c : Config} {text : String}

/-! ## An order -/

namespace PlanOrder

variable {o : PlanOrder}

/-- A text is printed if there are a configuration, a manifest and a plan, and it is the text of the
    plan, with its last line ended. -/
theorem outcome_run_eq_ok_iff :
    (o.run read cwd).outcome = .ok text ↔
      ∃ c m s, (o.configuration read cwd).outcome = .ok c ∧
        Manifest.load read o.manifest = .ok m ∧ (m.plan c).outcome = .ok s ∧
        text = s.render (o.format.getD c.defaultFormat) ++ "\n" := by
  rw [run]
  simp only [Attempt.outcome_bind_eq_ok_iff, Attempt.outcome_ofExcept, Attempt.outcome_pure]
  constructor
  · rintro ⟨c, hc, m, hm, s, hs, ht⟩
    exact ⟨c, m, s, hc, hm, hs, (Except.ok.inj ht).symm⟩
  · rintro ⟨c, m, s, hc, hm, hs, rfl⟩
    exact ⟨c, hc, m, hm, s, hs, rfl⟩

/-- Without a file that is named there is a configuration. -/
theorem outcome_configuration (ho : o.config = none) :
    (o.configuration read cwd).outcome = .ok (Config.current read cwd).value := by
  rw [configuration, ho]
  rfl

theorem records_configuration (ho : o.config = none) :
    (o.configuration read cwd).records = (Config.current read cwd).records := by
  rw [configuration, ho]
  exact Attempt.records_ofLogged _

/-- A file that is named is loaded. -/
theorem configuration_named {path : String} (ho : o.config = some path) :
    o.configuration read cwd = Config.load read path := by
  rw [configuration, ho]

theorem usable_configuration (h : (o.configuration read cwd).outcome = .ok c) : c.Usable := by
  cases ho : o.config with
  | none =>
    rw [outcome_configuration ho, Except.ok.injEq] at h
    exact h ▸ Config.usable_current read cwd
  | some path =>
    rw [configuration_named ho] at h
    exact Config.usable_of_load h

end PlanOrder

/-! ## The body -/

/-- A planned override holds the body that was asked for, if the placeholder is not empty. -/
theorem Manifest.body_infix_of_plan {m : Manifest} {side : Template.Side} {n method body : String}
    {s : Summary} (htag : c.bodyTag ≠ "") (hr : m.request = .overriding side n method body)
    (hs : (m.plan c).outcome = .ok s) : s.body = body ∧ body.toList <:+: s.fullMethod.toList := by
  have hverdict : Verdict m c (.ok s) := hs ▸ verdict_plan m c
  obtain ⟨p, hp, hd⟩ := hverdict.exists_linked
  have hoverride := hverdict.declared p hp hd
  rw [hr] at hoverride
  obtain ⟨sig, sup, rfl⟩ := OverrideVerdict.exists_summary hoverride
  exact ⟨rfl, Template.infix_filled (Template.holds_override htag sig sup side) body⟩

/-- A body is put into the text of the whole method, or it is put on record that there is no place
    for it.  In an override there is always one unless the placeholder is empty.  No configuration
    has an empty one, so that every planned override that is printed holds its body. -/
theorem body_kept_or_reported :
    (∀ {μ ω : Type} [Target μ] (writer : SignatureWriter ω) (w w' : ω) (b : Builder μ ω .complete),
      (∀ (r : Builder.Run μ .pointSet) (body text : String),
        ((r.andThen (.withBody body)).andThen (.elseCreate text)).LeadsTo writer w b w' →
        b.Delivers r.tag text body) ∧
      (∀ (r : Builder.Run μ .targetSet) (side : Template.Side) (method body : String),
        ((r.andThen (.overrideAt side method)).andThen (.withOverrideBody body)).LeadsTo
          writer w b w' →
        ∃ o : Builder μ ω .overrideSet,
          (r.andThen (.overrideAt side method)).LeadsTo writer w o w' ∧
          b.Delivers r.tag o.template body ∧ (r.tag ≠ "" → b.finalize.records = []))) ∧
    (∀ read : Config.Reading,
      (∀ path c, (Config.load read path).outcome = .ok c → c.Usable) ∧
      (∀ start c, (Config.discover read start).value = some c → c.Usable) ∧
      (∀ cwd, (Config.current read cwd).value.Usable)) ∧
    (∀ (o : PlanOrder) (read : Config.Reading) (cwd : Except OsError String) (text : String),
      (o.run read cwd).outcome = .ok text →
      ∃ c m s, (o.configuration read cwd).outcome = .ok c ∧
        Manifest.load read o.manifest = .ok m ∧ (m.plan c).outcome = .ok s ∧
        text = s.render (o.format.getD c.defaultFormat) ++ "\n" ∧
        ∀ side n method body, m.request = .overriding side n method body →
          s.body = body ∧ body.toList <:+: s.fullMethod.toList) := by
  refine ⟨fun writer w w' b => ⟨fun r body text h => ?_, fun r side method body h => ?_⟩,
    fun read => ⟨fun path c h => ?_, fun start c h => ?_, fun cwd => ?_⟩,
    fun o read cwd text h => ?_⟩
  · exact Builder.delivers_elseCreate h
  · exact Builder.delivers_override h
  · exact Config.usable_of_load h
  · exact Config.usable_of_discover h
  · exact Config.usable_current read cwd
  · obtain ⟨c, m, s, hc, hm, hs, ht⟩ := PlanOrder.outcome_run_eq_ok_iff.mp h
    have htag : c.bodyTag ≠ "" := (PlanOrder.usable_configuration hc).tag_ne_empty
    exact ⟨c, m, s, hc, hm, hs, ht, fun side n method body hr =>
      Manifest.body_infix_of_plan htag hr hs⟩

/-- An empty placeholder at a call, a brace as the placeholder of an override, and a file that
    configures white space. -/
theorem body_kept_or_reported_blankTag :
    let aimed (tag : String) : Builder.Run Lineage .targetSet :=
      (Builder.Run.start.andThen (.withConfig { bodyTag := tag })).andThen
        (.into (.overridingPair "f"))
    let read : Config.Reading := fun path =>
      if path = "plan.toml" then
        .ok ("[[class]]\nname = \"T\"\n[[class.method]]\nname = \"f\"\n[insertion]\n"
          ++ "mode = \"after-override\"\nclass = \"T\"\nmethod = \"f\"\nbody = \"x();\"\n")
      else .ok "[insertion]\nbody_tag = \" \"\n"
    (∃ b, (((((aimed "").andThen (.select "f")).andThen (.callAt .after "g")).andThen
        (.withBody "x();")).andThen (.elseCreate "void f() BODY")).LeadsTo .standard () b () ∧
      b.Delivers "" "void f() BODY" "x();") ∧
    (∃ b, (((aimed "\x7d").andThen (.overrideAt .before "f")).andThen
        (.withOverrideBody "x();")).LeadsTo .standard () b () ∧ b.finalize.records = []) ∧
    ∃ text, (PlanOrder.run { manifest := "plan.toml" } read (.ok "")).outcome = .ok text ∧
      ∃ s : Summary, text = s.render .json ++ "\n" ∧ "x();".toList <:+: s.fullMethod.toList := by
  intro aimed read
  let called := ((aimed "").andThen (.select "f")).andThen (.callAt .after "g")
  let overridden := ((aimed "\x7d").andThen (.overrideAt .before "f")).andThen
    (.withOverrideBody "x();")
  let order : PlanOrder := { manifest := "plan.toml" }
  obtain ⟨hbuilds, -, hprints⟩ := body_kept_or_reported
  refine ⟨⟨_, rfl, (hbuilds .standard () () _).1 called "x();" "void f() BODY" rfl⟩, ?_, ?_⟩
  · obtain ⟨r, hr⟩ : ∃ r, ((overridden.perform .standard).startingAt ()).outcome = .ok r :=
      exists_ok_of_isSome (by decide +kernel)
    obtain ⟨-, -, -, hsilent⟩ :=
      (hbuilds .standard () () r.1).2 (aimed "\x7d") .before "f" "x();" hr
    exact ⟨r.1, hr, hsilent (by decide)⟩
  · obtain ⟨text, htext⟩ : ∃ text, (order.run read (.ok "")).outcome = .ok text :=
      exists_ok_of_isSome (by decide +kernel)
    have hrequest : (Manifest.load read "plan.toml").toOption.map Manifest.request =
        some (.overriding .after "T" "f" "x();") := by decide +kernel
    have hformat : (order.configuration read (.ok "")).outcome.toOption.map Config.defaultFormat =
        some .json := by decide +kernel
    obtain ⟨c, m, s, hc, hm, -, ht, hbody⟩ := hprints order read (.ok "") text htext
    rw [hc] at hformat
    rw [show Manifest.load read "plan.toml" = .ok m from hm] at hrequest
    have hjson : c.defaultFormat = .json := Option.some.inj hformat
    refine ⟨text, htext, s, ?_, (hbody _ _ _ _ (Option.some.inj hrequest)).2⟩
    rw [ht, hjson]
    rfl

end Splice
