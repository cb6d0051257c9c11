/-
  What comes of planning a manifest.

  1. **The stages of a request** — whatever is asked for, a builder that has come to its end holds
     what the request says and a template (`Request.complete`).  At a call the template is the
     request's own and nothing can fail (`Request.builder_atCall`).  An override resolves its method
     and asks for the signature, and either may fail (`Request.builder_overriding`).

  2. **The whole** — planning is linking, the stages, finishing and a record (`Manifest.plan_eq`).
     That a part of the draft is missing and that the planner is never reached are failures the
     program words; no manifest leads to them.

  3. **The verdict** — `Manifest.Verdict` says what comes of a manifest in terms of what it declares
     and asks for, one failure after the other.  It is what planning comes to, and nothing else is
     (`Manifest.outcome_plan_iff`).
-/
import Splice.Plan
import Splice.Proofs.Builder.Stages
import Splice.Proofs.Pool.Resolution
import Splice.Proofs.Template

namespace Splice

variable {classes : String → Option Lineage} {t : Lineage}

/-- A method with a name has a signature. -/
theorem Method.exists_signature {x : Method} (h : x.name ≠ "") : ∃ sig, x.signature = .ok sig :=
  ⟨_, if_neg h⟩

/-! ## The stages of a request -/

namespace Request

/-- Where a request puts the body. -/
def point : Request → Point
  | .atCall .before _ _ callee _ _ => .beforeCall callee
  | .atCall .after _ _ callee _ _ => .afterCall callee
  | .overriding side _ _ _ => Builder.sidePoint side

/-- The builder of a request that has come to its end, on a class and with a template. -/
def complete (r : Request) (c : Config) (t : Lineage) (template : String) :
    Builder Lineage Unit .complete where
  writer := .standard
  tag := c.bodyTag
  draft := ⟨some t, some r.method, some r.point, some r.body, some template⟩

/-- A class that is not there ends the stages of any request. -/
theorem builder_of_none (r : Request) (h : classes r.className = none) (c : Config) :
    r.builder classes c = throw (.moduleNotFound r.className) := by
  cases r with
  | atCall side n method callee body text =>
    have h : classes n = none := h
    rw [builder, Builder.intoNamed_of_none h]
    rfl
  | overriding side n method body =>
    have h : classes n = none := h
    rw [builder, Builder.intoNamed_of_none h]
    rfl

/-- At a call there is nothing else that can fail. -/
theorem builder_atCall {n : String} (h : classes n = some t) (c : Config) (side : Template.Side)
    (method callee body text : String) :
    (atCall side n method callee body text).builder classes c =
      pure ((atCall side n method callee body text).complete c t text) := by
  rw [builder, Builder.intoNamed_of_some h]
  cases side <;> rfl

/-- The stages of an override resolve the method and ask for its signature. -/
theorem builder_overriding {n : String} (h : classes n = some t) (c : Config)
    (side : Template.Side) (method body : String) :
    (overriding side n method body).builder classes c = (do
      let m ← Target.resolve t method
      let sig ← Attempt.ofExcept m.signature
      let template := Template.override sig m.superCall c.bodyTag side
      Attempt.ofLogged (.write .info ("Creating override " ++ template))
      pure ((overriding side n method body).complete c t template)) := by
  let b : Builder Lineage Unit .targetSet := ((Builder.start .standard).withConfig c).into t
  -- the two calls for the two sides are one call with the side as an argument
  have hb : (overriding side n method body).builder classes c =
      (b.overrideAt side method).startingAt () >>= fun r => pure (r.1.withOverrideBody body) := by
    rw [builder, Builder.intoNamed_of_some h]
    cases side <;> rfl
  have htarget : b.draft.target = some t := rfl
  rw [hb, Builder.startingAt_overrideAt_standard rfl htarget]
  simp only [bind_assoc, pure_bind]
  rfl

/-- The outcome of these stages: that of resolution, and then that of the signature. -/
theorem outcome_builder_overriding {n : String} (h : classes n = some t) (c : Config)
    (side : Template.Side) (method body : String) :
    ((overriding side n method body).builder classes c).outcome =
      (Target.resolve t method).outcome.bind fun x => x.signature.map fun sig =>
        (overriding side n method body).complete c t
          (Template.override sig x.superCall c.bodyTag side) := by
  rw [builder_overriding h, Attempt.outcome_bind]
  congr 1
  funext x
  rw [Attempt.outcome_bind, Attempt.outcome_ofExcept]
  cases x.signature <;> rfl

theorem finalize_complete (r : Request) (c : Config) (t : Lineage) (template : String) :
    (r.complete c t template).finalize.outcome =
      .ok ⟨t, r.method, r.point, r.body, Template.filled template c.bodyTag r.body⟩ :=
  Builder.outcome_assemble (i := ⟨t, r.method, r.point, r.body, template⟩) rfl c.bodyTag

end Request

/-! ## The whole -/

theorem startingAt_planner (i : Insertion Lineage) (s : Option Summary) :
    (planner i).startingAt s = (do
      Attempt.ofLogged
        (.write .info ("Planned insertion into " ++ i.target.name ++ "." ++ i.method))
      pure ((), some i.summary)) := rfl

namespace Manifest

variable {m : Manifest} {c : Config} {p : Pool} {e : Failure}

/-- Planning links, goes through the stages, finishes the insertion and puts it on record.  The
    planner has always been given an insertion by then. -/
theorem plan_eq (m : Manifest) (c : Config) :
    m.plan c = (do
      let pool ← Attempt.ofExcept (Pool.link m.classes)
      let b ← m.request.builder pool.get? c
      let i ← b.finalize
      Attempt.ofLogged
        (.write .info ("Planned insertion into " ++ i.target.name ++ "." ++ i.method))
      pure i.summary) := by
  unfold Manifest.plan
  simp only [Builder.startingAt_buildAndApply, startingAt_planner, bind_assoc, pure_bind]

theorem outcome_plan_of_unlinked (h : Pool.link m.classes = .error e) (c : Config) :
    (m.plan c).outcome = .error e := by
  rw [plan_eq, h]
  rfl

theorem outcome_plan_of_error (hp : Pool.link m.classes = .ok p)
    (hb : (m.request.builder p.get? c).outcome = .error e) : (m.plan c).outcome = .error e := by
  rw [plan_eq, hp, Attempt.outcome_bind_of_ok (Attempt.outcome_ofExcept _)]
  exact Attempt.outcome_bind_of_error hb _

theorem outcome_plan_of_complete {template : String} (hp : Pool.link m.classes = .ok p)
    (hb : (m.request.builder p.get? c).outcome = .ok (m.request.complete c t template)) :
    (m.plan c).outcome = .ok ⟨t.name, m.request.method, m.request.body,
      Template.filled template c.bodyTag m.request.body, m.request.point⟩ := by
  rw [plan_eq, hp, Attempt.outcome_bind_of_ok (Attempt.outcome_ofExcept _),
    Attempt.outcome_bind_of_ok hb, Attempt.outcome_bind_of_ok (Request.finalize_complete ..)]
  rfl

/-! ## The verdict -/

/-- What comes of a request to override `method` on the declared class `n`. -/
structure OverrideVerdict (decls : List Declaration) (p : Pool) (c : Config)
    (side : Template.Side) (n method body : String) (r : Except Failure Summary) : Prop where
  /-- The method has to be declared by the class or by an ancestor. -/
  unresolved : r = .error (.methodNotFound n method) ↔ ¬ Linking.Declares decls n method
  /-- Then one is resolved, and all it still needs is a name. -/
  resolved : Linking.Declares decls n method →
    ∃ t x, p.get? n = some t ∧ (Target.resolve t method).outcome = .ok x ∧
      (r = .error (.signature ("method declared on " ++ x.declaringClass ++ " has no name")) ↔
        method = "") ∧
      (method ≠ "" → ∃ sig, x.signature = .ok sig ∧
        r = .ok ⟨n, method, body,
          Template.filled
            (match side with
              | .before => sig ++ " \x7b " ++ c.bodyTag ++ " " ++ x.superCall ++ " \x7d"
              | .after => sig ++ " \x7b " ++ x.superCall ++ " " ++ c.bodyTag ++ " \x7d")
            c.bodyTag body,
          Builder.sidePoint side⟩)

/-- What comes of a manifest.  What stands first goes before all that follows. -/
structure Verdict (m : Manifest) (c : Config) (r : Except Failure Summary) : Prop where
  /-- Declarations that cannot be linked fail as linking does, whatever is asked for. -/
  unlinked : ∀ e, Pool.link m.classes = .error e → r = .error e
  /-- The class that is asked for has to be declared. -/
  undeclared : ∀ p, Pool.link m.classes = .ok p →
    (∀ d ∈ m.classes, d.name ≠ m.request.className) →
    r = .error (.moduleNotFound m.request.className)
  /-- Nothing else can fail at a call.  An override still has to find its method. -/
  declared : ∀ p, Pool.link m.classes = .ok p →
    (∃ d ∈ m.classes, d.name = m.request.className) →
    match m.request with
    | .atCall side n method callee body text =>
      r = .ok ⟨n, method, body, Template.filled text c.bodyTag body,
        match side with
        | .before => .beforeCall callee
        | .after => .afterCall callee⟩
    | .overriding side n method body => OverrideVerdict m.classes p c side n method body r

theorem OverrideVerdict.unique {decls : List Declaration} {side : Template.Side}
    {n method body : String} {r r' : Except Failure Summary}
    (h : OverrideVerdict decls p c side n method body r)
    (h' : OverrideVerdict decls p c side n method body r') : r = r' := by
  by_cases hd : Linking.Declares decls n method
  · obtain ⟨t, x, ht, hx, hempty, hok⟩ := h.resolved hd
    obtain ⟨t', x', ht', hx', hempty', hok'⟩ := h'.resolved hd
    obtain rfl : t = t' := Option.some.inj (ht.symm.trans ht')
    obtain rfl : x = x' := Except.ok.inj (hx.symm.trans hx')
    by_cases hm : method = ""
    · rw [hempty.mpr hm, hempty'.mpr hm]
    · obtain ⟨sig, hsig, hr⟩ := hok hm
      obtain ⟨sig', hsig', hr'⟩ := hok' hm
      obtain rfl : sig = sig' := Except.ok.inj (hsig.symm.trans hsig')
      rw [hr, hr']
  · rw [h.unresolved.mpr hd, h'.unresolved.mpr hd]

/-- The verdict on an override of a declared class. -/
theorem overrideVerdict_plan {side : Template.Side} {n method body : String}
    (hp : Pool.link m.classes = .ok p) (ht : p.get? n = some t)
    (hr : m.request = .overriding side n method body) :
    OverrideVerdict m.classes p c side n method body (m.plan c).outcome := by
  have hden := (Linking.link_ok hp).2.faithful n t ht
  have hb := Request.outcome_builder_overriding ht c side method body
  rw [← hr] at hb
  by_cases hdecl : Linking.Declares m.classes n method
  · obtain ⟨x, hx⟩ := Target.exists_resolve (hden.declares_iff.mp hdecl)
    obtain ⟨-, hname⟩ := Target.name_of_resolve hx
    rw [hx] at hb
    -- what is resolved has the name that was asked for, so the signature fails with an empty one
    by_cases hempty : method = ""
    · have hsig := Method.signature_eq_error_iff.mpr ⟨hname.trans hempty, rfl⟩
      have hout := outcome_plan_of_error hp (hb.trans (congrArg (Except.map _) hsig))
      rw [hout]
      exact
        { unresolved := ⟨nofun, fun h => absurd hdecl h⟩
          resolved := fun _ => ⟨t, x, ht, hx, iff_of_true rfl hempty, fun h => absurd hempty h⟩ }
    · obtain ⟨sig, hsig⟩ := Method.exists_signature (hname.trans_ne hempty)
      have hout := outcome_plan_of_complete hp (hb.trans (congrArg (Except.map _) hsig))
      rw [hout, hden.name_eq, hr, Template.override_eq]
      exact
        { unresolved := ⟨nofun, fun h => absurd hdecl h⟩
          resolved := fun _ =>
            ⟨t, x, ht, hx, iff_of_false nofun hempty, fun _ => ⟨sig, hsig, rfl⟩⟩ }
  · have hx := hden.resolve_eq_error_iff.mpr ⟨hdecl, rfl⟩
    rw [hx] at hb
    rw [outcome_plan_of_error hp hb]
    exact
      { unresolved := iff_of_true rfl hdecl
        resolved := fun h => absurd h hdecl }

theorem verdict_plan (m : Manifest) (c : Config) : Verdict m c (m.plan c).outcome where
  unlinked e h := outcome_plan_of_unlinked h c
  undeclared p hp h := by
    have hnone : p.get? m.request.className = none := by
      refine Option.eq_none_iff_forall_ne_some.mpr fun t ht => ?_
      obtain ⟨d, hd, hn⟩ := (Linking.link_ok hp).2.get?_isSome_iff.mp ⟨t, ht⟩
      exact h d hd hn
    exact outcome_plan_of_error hp (by rw [Request.builder_of_none _ hnone]; rfl)
  declared p hp h := by
    have hlinked := (Linking.link_ok hp).2
    obtain ⟨t, ht⟩ := hlinked.get?_isSome_iff.mpr h
    cases hr : m.request with
    | atCall side n method callee body text =>
      have ht : p.get? n = some t := by rwa [hr] at ht
      have hb : (m.request.builder p.get? c).outcome = .ok (m.request.complete c t text) := by
        rw [hr, Request.builder_atCall ht]
        rfl
      rw [outcome_plan_of_complete hp hb, (hlinked.faithful _ _ ht).name_eq, hr]
      cases side <;> rfl
    | overriding side n method body =>
      have ht : p.get? n = some t := by rwa [hr] at ht
      exact overrideVerdict_plan hp ht hr

/-- There is only one verdict. -/
theorem Verdict.unique {r r' : Except Failure Summary} (h : Verdict m c r)
    (h' : Verdict m c r') : r = r' := by
  cases hp : Pool.link m.classes with
  | error e => rw [h.unlinked e hp, h'.unlinked e hp]
  | ok p =>
    by_cases hd : ∃ d ∈ m.classes, d.name = m.request.className
    · have hv := h.declared p hp hd
      have hv' := h'.declared p hp hd
      cases hr : m.request with
      | atCall side n method callee body text =>
        rw [hr] at hv hv'
        exact hv.trans hv'.symm
      | overriding side n method body =>
        rw [hr] at hv hv'
        exact hv.unique hv'
    · have hd : ∀ d ∈ m.classes, d.name ≠ m.request.className := fun d hm hn => hd ⟨d, hm, hn⟩
      rw [h.undeclared p hp hd, h'.undeclared p hp hd]

/-- An override that is planned has its template filled with the placeholder it is written with. -/
theorem OverrideVerdict.exists_summary {decls : List Declaration} {side : Template.Side}
    {n method body : String} {s : Summary}
    (h : OverrideVerdict decls p c side n method body (.ok s)) :
    ∃ sig sup, s = ⟨n, method, body,
      Template.filled (Template.override sig sup c.bodyTag side) c.bodyTag body,
      Builder.sidePoint side⟩ := by
  by_cases hd : Linking.Declares decls n method
  · obtain ⟨t, x, -, -, hempty, hok⟩ := h.resolved hd
    by_cases hm : method = ""
    · exact absurd (hempty.mpr hm) nofun
    · obtain ⟨sig, -, hs⟩ := hok hm
      refine ⟨sig, x.superCall, ?_⟩
      rw [Template.override_eq]
      exact Except.ok.inj hs
  · exact absurd (h.unresolved.mpr hd) nofun

/-- What is planned is about a class that is declared and linked. -/
theorem Verdict.exists_linked {s : Summary} (h : Verdict m c (.ok s)) :
    ∃ p, Pool.link m.classes = .ok p ∧ ∃ d ∈ m.classes, d.name = m.request.className := by
  cases hp : Pool.link m.classes with
  | error e => exact absurd (h.unlinked e hp) nofun
  | ok p =>
    by_cases hd : ∃ d ∈ m.classes, d.name = m.request.className
    · exact ⟨p, rfl, hd⟩
    · exact absurd (h.undeclared p hp fun d hm hn => hd ⟨d, hm, hn⟩) nofun

/-- What is planned is what was asked for. -/
theorem Verdict.summary_eq {s : Summary} (h : Verdict m c (.ok s)) :
    s.className = m.request.className ∧ s.method = m.request.method ∧
      s.body = m.request.body ∧ s.point = m.request.point := by
  obtain ⟨p, hp, hd⟩ := h.exists_linked
  have hv := h.declared p hp hd
  cases hr : m.request with
  | atCall side n method callee body text =>
    rw [hr] at hv
    obtain rfl := Except.ok.inj hv
    cases side <;> exact ⟨rfl, rfl, rfl, rfl⟩
  | overriding side n method body =>
    rw [hr] at hv
    obtain ⟨sig, sup, rfl⟩ := OverrideVerdict.exists_summary hv
    exact ⟨rfl, rfl, rfl, rfl⟩

/-- Planning comes to exactly what the verdict says, and what is planned is what was asked for. -/
theorem outcome_plan_iff (m : Manifest) (c : Config) (r : Except Failure Summary) :
    ((m.plan c).outcome = r ↔ Verdict m c r) ∧
      ∀ s, (m.plan c).outcome = .ok s →
        s.className = m.request.className ∧ s.method = m.request.method ∧
          s.body = m.request.body ∧ s.point = m.request.point := by
  refine ⟨⟨?_, fun h => (verdict_plan m c).unique h⟩, fun s hs => ?_⟩
  · rintro rfl
    exact verdict_plan m c
  · exact Verdict.summary_eq (hs ▸ verdict_plan m c)

/-- A method without a name is found on an ancestor, and the ancestor is named. -/
example : (Manifest.plan ⟨[⟨"B", some "A", []⟩, ⟨"A", none, [.named ""]⟩],
      .overriding .before "B" "" "x();"⟩ {}).outcome =
    .error (.signature "method declared on A has no name") := by cbv

end Manifest

end Splice
