/-
  Runs of calls on a builder, of any length and in either protocol.

  1. **Runs** — `Move μ s t` is a call that the stage `s` offers, with its arguments, and `t` is the
     stage it leads to.  A `Run μ s` is made of such calls, from a fresh builder to the stage `s`,
     so that a call out of order is no run.  `Run.LeadsTo` says what a run comes to if no call
     fails.

  2. **Every way a call can go** — `Made m b w b' w'` has one case for each call, with what is
     known if it succeeds (`Made.of_perform`).  What follows is by cases on it.

  3. **The invariant** — `StageInvariant`: the draft has exactly the parts of the stage, no call
     that can follow replaces one of them, and the placeholder is the one configured last.  One
     call keeps it (`Made.stageInvariant`), and so does a run (`Run.LeadsTo.stageInvariant`).

  4. **What comes out** — a complete builder has been through one protocol or the other, and its
     insertion holds what the calls have said (`Run.LeadsTo.carries`).  The check for a part that
     is missing never fails (`run_stage_invariant`).
-/
import Splice.Proofs.Builder.Stages

namespace Splice

variable {μ ω σ : Type} {s t : Stage}

/-! ## What is there at a stage -/

/-- The parts of an insertion. -/
inductive Part
  | target
  | method
  | point
  | body
  | fullMethod
deriving DecidableEq, Repr

/-- The parts that have been said by the time a stage is reached. -/
def Stage.parts : Stage → List Part
  | .fresh => []
  | .targetSet => [.target]
  | .methodSet => [.target, .method]
  | .pointSet => [.target, .method, .point]
  | .bodySet => [.target, .method, .point, .body]
  | .overrideSet => [.target, .method, .point, .fullMethod]
  | .complete => [.target, .method, .point, .body, .fullMethod]

namespace Draft

/-- Whether a draft has a part. -/
def has (d : Draft μ) : Part → Bool
  | .target => d.target.isSome
  | .method => d.method.isSome
  | .point => d.point.isSome
  | .body => d.body.isSome
  | .fullMethod => d.fullMethod.isSome

/-- A draft has the parts of a stage, and no other. -/
def Fits (d : Draft μ) (s : Stage) : Prop := ∀ part, d.has part = true ↔ part ∈ s.parts

/-- Whatever `d` has, `e` has too, and has it unchanged. -/
structure KeptIn (d e : Draft μ) : Prop where
  target : d.has .target = true → e.target = d.target
  method : d.has .method = true → e.method = d.method
  point : d.has .point = true → e.point = d.point
  body : d.has .body = true → e.body = d.body
  fullMethod : d.has .fullMethod = true → e.fullMethod = d.fullMethod

end Draft

namespace Builder

/-! ## Runs -/

/-- A call that the stage `s` offers, with its arguments, leading to the stage `t`. -/
inductive Move (μ : Type) : Stage → Stage → Type
  | withConfig (c : Config) : Move μ .fresh .fresh
  | into (target : μ) : Move μ .fresh .targetSet
  | intoNamed (classes : String → Option μ) (name : String) : Move μ .fresh .targetSet
  | select (method : String) : Move μ .targetSet .methodSet
  | callAt (side : Template.Side) (callee : String) : Move μ .methodSet .pointSet
  | withBody (body : String) : Move μ .pointSet .bodySet
  | elseCreate (fullMethod : String) : Move μ .bodySet .complete
  | overrideAt (side : Template.Side) (method : String) : Move μ .targetSet .overrideSet
  | withOverrideBody (body : String) : Move μ .overrideSet .complete

/-- Make a call on a builder. -/
def Move.perform [Target μ] : Move μ s t → Builder μ ω s → Effect ω (Builder μ ω t)
  | .withConfig c, b => pure (b.withConfig c)
  | .into target, b => pure (b.into target)
  | .intoNamed classes name, b => .ofAttempt (.ofExcept (b.intoNamed classes name))
  | .select method, b => pure (b.select method)
  | .callAt .before callee, b => pure (b.beforeCall callee)
  | .callAt .after callee, b => pure (b.afterCall callee)
  | .withBody body, b => pure (b.withBody body)
  | .elseCreate fullMethod, b => pure (b.elseCreate fullMethod)
  | .overrideAt .before method, b => b.beforeOverride method
  | .overrideAt .after method, b => b.afterOverride method
  | .withOverrideBody body, b => pure (b.withOverrideBody body)

/-- The placeholder a call configures. -/
def Move.tag? : Move μ s t → Option String
  | .withConfig c => some c.bodyTag
  | _ => none

/-- Calls made one after the other on a fresh builder, up to the stage `s`. -/
inductive Run (μ : Type) : Stage → Type
  | start : Run μ .fresh
  | andThen {s t : Stage} (r : Run μ s) (m : Move μ s t) : Run μ t

namespace Run

/-- Make the calls of a run. -/
def perform [Target μ] (writer : SignatureWriter ω) :
    {s : Stage} → Run μ s → Effect ω (Builder μ ω s)
  | _, .start => pure (.start writer)
  | _, .andThen r m => r.perform writer >>= m.perform

/-- The placeholder configured last. -/
def tag : {s : Stage} → Run μ s → String
  | _, .start => Template.defaultTag
  | _, .andThen r m => m.tag?.getD r.tag

/-- The run, begun in the state `w` of the writer, leads to the builder `b` and leaves `w'`. -/
def LeadsTo [Target μ] (r : Run μ s) (writer : SignatureWriter ω) (w : ω) (b : Builder μ ω s)
    (w' : ω) : Prop :=
  ((r.perform writer).startingAt w).outcome = .ok (b, w')

end Run

/-! ## Every way a call can go -/

/-- The point at a call. -/
def callPoint : Template.Side → String → Point
  | .before, callee => .beforeCall callee
  | .after, callee => .afterCall callee

/-- The ways in which a call succeeds. -/
inductive Made [Target μ] : {s t : Stage} →
    Move μ s t → Builder μ ω s → ω → Builder μ ω t → ω → Prop where
  | withConfig {b : Builder μ ω .fresh} {w : ω} (c : Config) :
      Made (.withConfig c) b w (b.withConfig c) w
  | into {b : Builder μ ω .fresh} {w : ω} (target : μ) : Made (.into target) b w (b.into target) w
  | intoNamed {b : Builder μ ω .fresh} {w : ω} {classes : String → Option μ} {name : String}
      {target : μ} (h : classes name = some target) :
      Made (.intoNamed classes name) b w (b.into target) w
  | select {b : Builder μ ω .targetSet} {w : ω} (method : String) :
      Made (.select method) b w (b.select method) w
  | callAt {b : Builder μ ω .methodSet} {w : ω} (side : Template.Side) (callee : String) :
      Made (.callAt side callee) b w
        (b.moveTo .pointSet { b.draft with point := some (callPoint side callee) }) w
  | withBody {b : Builder μ ω .pointSet} {w : ω} (body : String) :
      Made (.withBody body) b w (b.withBody body) w
  | elseCreate {b : Builder μ ω .bodySet} {w : ω} (fullMethod : String) :
      Made (.elseCreate fullMethod) b w (b.elseCreate fullMethod) w
  | overrideAt {b : Builder μ ω .targetSet} {w w' w'' : ω} {target : μ} {m : Method}
      {sig sup : String} (side : Template.Side) (method : String)
      (ht : b.draft.target = some target) (hm : (Target.resolve target method).outcome = .ok m)
      (hsig : ((b.writer.signature m).startingAt w).outcome = .ok (sig, w'))
      (hsup : ((b.writer.superCall m).startingAt w').outcome = .ok (sup, w'')) :
      Made (.overrideAt side method) b w
        (b.moveTo .overrideSet
          (overrideDraft b.draft side method (Template.override sig sup b.tag side))) w''
  | withOverrideBody {b : Builder μ ω .overrideSet} {w : ω} (body : String) :
      Made (.withOverrideBody body) b w (b.withOverrideBody body) w

variable [Target μ] {m : Move μ s t} {b : Builder μ ω s} {b' : Builder μ ω t} {w w' : ω}
  {writer : SignatureWriter ω}

/-- An override that is written has had a class to look on, and both texts. -/
theorem overrideAt_eq_ok {b : Builder μ ω .targetSet} {o : Builder μ ω .overrideSet}
    {side : Template.Side} {method : String}
    (h : ((b.overrideAt side method).startingAt w).outcome = .ok (o, w')) :
    Made (.overrideAt side method) b w o w' := by
  cases ht : b.draft.target with
  | none =>
    rw [overrideAt, ht] at h
    cases h
  | some target =>
    rw [startingAt_overrideAt ht] at h
    obtain ⟨m, hm, h⟩ := Attempt.outcome_bind_eq_ok_iff.mp h
    obtain ⟨⟨sig, v⟩, hsig, h⟩ := Attempt.outcome_bind_eq_ok_iff.mp h
    obtain ⟨⟨sup, v'⟩, hsup, h⟩ := Attempt.outcome_bind_eq_ok_iff.mp h
    obtain ⟨rfl, rfl⟩ := Prod.mk.inj (Except.ok.inj h)
    exact .overrideAt side method ht hm hsig hsup

/-- A call that succeeds goes one of these ways. -/
theorem Made.of_perform (h : ((m.perform b).startingAt w).outcome = .ok (b', w')) :
    Made m b w b' w' := by
  cases m with
  | withConfig c =>
    obtain ⟨rfl, rfl⟩ := Prod.mk.inj (Except.ok.inj h)
    exact .withConfig c
  | into target =>
    obtain ⟨rfl, rfl⟩ := Prod.mk.inj (Except.ok.inj h)
    exact .into target
  | intoNamed classes name =>
    cases hc : classes name with
    | none =>
      rw [Move.perform, intoNamed_of_none hc] at h
      exact nomatch h
    | some target =>
      rw [Move.perform, intoNamed_of_some hc] at h
      obtain ⟨rfl, rfl⟩ := Prod.mk.inj (Except.ok.inj h)
      exact .intoNamed hc
  | select method =>
    obtain ⟨rfl, rfl⟩ := Prod.mk.inj (Except.ok.inj h)
    exact .select method
  | callAt side callee =>
    cases side with
    | before =>
      obtain ⟨rfl, rfl⟩ := Prod.mk.inj (Except.ok.inj h)
      exact .callAt .before callee
    | after =>
      obtain ⟨rfl, rfl⟩ := Prod.mk.inj (Except.ok.inj h)
      exact .callAt .after callee
  | withBody body =>
    obtain ⟨rfl, rfl⟩ := Prod.mk.inj (Except.ok.inj h)
    exact .withBody body
  | elseCreate fullMethod =>
    obtain ⟨rfl, rfl⟩ := Prod.mk.inj (Except.ok.inj h)
    exact .elseCreate fullMethod
  | overrideAt side method =>
    cases side with
    | before => exact overrideAt_eq_ok h
    | after => exact overrideAt_eq_ok h
  | withOverrideBody body =>
    obtain ⟨rfl, rfl⟩ := Prod.mk.inj (Except.ok.inj h)
    exact .withOverrideBody body

/-- A call keeps the writer, and the placeholder unless it configures one. -/
theorem Made.tag_eq (h : Made m b w b' w') :
    b'.writer = b.writer ∧ b'.tag = m.tag?.getD b.tag := by
  cases h <;> exact ⟨rfl, rfl⟩

/-- A call leads from the parts of its stage to those of the next. -/
theorem Made.fits (h : Made m b w b' w') (hb : b.draft.Fits s) : b'.draft.Fits t := by
  intro part
  have hpart := hb part
  -- each of the five parts is read off the draft that the call leaves
  cases h <;> cases part <;> simp_all [Draft.has, Stage.parts, overrideDraft]

/-- A call fills in parts that were not there, and leaves the others alone. -/
theorem Made.keptIn (h : Made m b w b' w') (hb : b.draft.Fits s) : b.draft.KeptIn b'.draft := by
  have hnew : ∀ {part} {P : Prop}, part ∉ s.parts → b.draft.has part = true → P :=
    fun hp h => absurd ((hb _).mp h) hp
  cases h with
  | withConfig c => exact ⟨fun _ => rfl, fun _ => rfl, fun _ => rfl, fun _ => rfl, fun _ => rfl⟩
  | into target =>
    exact ⟨hnew (by decide), hnew (by decide), hnew (by decide), hnew (by decide),
      hnew (by decide)⟩
  | intoNamed hc =>
    exact ⟨hnew (by decide), hnew (by decide), hnew (by decide), hnew (by decide),
      hnew (by decide)⟩
  | select method =>
    exact ⟨fun _ => rfl, hnew (by decide), fun _ => rfl, fun _ => rfl, fun _ => rfl⟩
  | callAt side callee =>
    exact ⟨fun _ => rfl, fun _ => rfl, hnew (by decide), fun _ => rfl, fun _ => rfl⟩
  | withBody body =>
    exact ⟨fun _ => rfl, fun _ => rfl, fun _ => rfl, hnew (by decide), fun _ => rfl⟩
  | elseCreate fullMethod =>
    exact ⟨fun _ => rfl, fun _ => rfl, fun _ => rfl, fun _ => rfl, hnew (by decide)⟩
  | overrideAt side method =>
    exact ⟨fun _ => rfl, hnew (by decide), hnew (by decide), fun _ => rfl, hnew (by decide)⟩
  | withOverrideBody body =>
    exact ⟨fun _ => rfl, fun _ => rfl, fun _ => rfl, hnew (by decide), fun _ => rfl⟩

/-! ## The invariant of a run -/

omit [Target μ] in
/-- To begin with nothing is there. -/
theorem fits_start (writer : SignatureWriter ω) :
    (start writer : Builder μ ω .fresh).draft.Fits .fresh := by
  intro part
  cases part <;> simp [Draft.has, Stage.parts]

/-- What is true of a builder `b` that a run has led to. -/
structure StageInvariant (writer : SignatureWriter ω) (r : Run μ s) (b : Builder μ ω s) : Prop where
  /-- Exactly the parts of the stage are there. -/
  fits : b.draft.Fits s
  /-- No call that can follow replaces a part that is there. -/
  keptIn : ∀ {t : Stage} (m : Move μ s t) (v v' : ω) (b' : Builder μ ω t),
    ((m.perform b).startingAt v).outcome = .ok (b', v') → b.draft.KeptIn b'.draft
  /-- The placeholder is the one configured last. -/
  tag : b.tag = r.tag
  writer : b.writer = writer

/-- A run with one more call leads where the call leads from where the run has led. -/
theorem Run.LeadsTo.of_andThen {r : Run μ s} (h : (r.andThen m).LeadsTo writer w b' w') :
    ∃ b v, r.LeadsTo writer w b v ∧ Made m b v b' w' := by
  obtain ⟨b, v, hr, hm⟩ := Effect.outcome_bind_eq_ok_iff.mp h
  exact ⟨b, v, hr, .of_perform hm⟩

/-- What is true of the builder before a call is true after it. -/
theorem Made.stageInvariant {r : Run μ s} (h : Made m b w b' w') (hr : StageInvariant writer r b) :
    StageInvariant writer (r.andThen m) b' := by
  have hfits := h.fits hr.fits
  obtain ⟨hwriter, htag⟩ := h.tag_eq
  exact
    { fits := hfits
      keptIn := fun m v v' b'' h' => (Made.of_perform h').keptIn hfits
      tag := by rw [htag, hr.tag, Run.tag]
      writer := hwriter.trans hr.writer }

/-- By induction on the run, call by call. -/
theorem Run.LeadsTo.stageInvariant {r : Run μ s} (h : r.LeadsTo writer w b w') :
    StageInvariant writer r b := by
  induction r generalizing w' with
  | start =>
    obtain ⟨rfl, rfl⟩ := Prod.mk.inj (Except.ok.inj h)
    exact
      { fits := fits_start writer
        keptIn := fun m v v' b' h' => (Made.of_perform h').keptIn (fits_start writer)
        tag := rfl
        writer := rfl }
  | andThen r m ih =>
    obtain ⟨b, v, hr, hm⟩ := h.of_andThen
    exact hm.stageInvariant (ih hr)

/-! ## What comes out -/

/-- Finishing a builder gives the insertion `i`, and applying it is handing `i` to the engine. -/
structure Finishes (b : Builder μ ω .complete) (i : Insertion μ) : Prop where
  finalize : b.finalize.outcome = .ok i
  buildAndApply : ∀ {σ : Type} (engine : Engine σ μ) (v : σ),
    ((b.buildAndApply engine).startingAt v).outcome = ((engine i).startingAt v).outcome

omit [Target μ] in
theorem finishes_of_check {b : Builder μ ω .complete} {i : Insertion μ}
    (h : b.draft.check = .ok i) :
    Finishes b { i with fullMethod := Template.filled i.fullMethod b.tag i.body } where
  finalize := outcome_assemble h b.tag
  buildAndApply engine v := by
    rw [startingAt_buildAndApply]
    exact Attempt.outcome_bind_of_ok (outcome_assemble h b.tag) _

/-- The class a call sets out for. -/
def Move.target? : Move μ .fresh .targetSet → Option μ
  | .into target => some target
  | .intoNamed classes name => classes name

/-- What the insertion `i` of a run holds, word for word as the calls of the run have said it; the
    writer goes from the state `w` to `w'`. -/
inductive Carries (writer : SignatureWriter ω) (w w' : ω) : Run μ .complete → Insertion μ → Prop
  /-- An insertion at a call: exactly one of the two methods it may be placed by is there. -/
  | atCall {r : Run μ .fresh} {aim : Move μ .fresh .targetSet} {side : Template.Side}
      {method callee body text : String} {i : Insertion μ} (htarget : aim.target? = some i.target)
      (hmethod : i.method = method) (hpoint : i.point = callPoint side callee)
      (hbefore : i.before? = if side = .before then some callee else none)
      (hafter : i.after? = if side = .after then some callee else none) (hbody : i.body = body)
      (hfull : i.fullMethod = Template.filled text r.tag body) :
      Carries writer w w'
        (((((r.andThen aim).andThen (.select method)).andThen (.callAt side callee)).andThen
          (.withBody body)).andThen (.elseCreate text)) i
  /-- An override: neither is there.  Its template is written and filled with one placeholder. -/
  | overriding {r : Run μ .fresh} {aim : Move μ .fresh .targetSet} {side : Template.Side}
      {method body sig sup : String} {i : Insertion μ} {m : Method} {v : ω}
      (htarget : aim.target? = some i.target) (hmethod : i.method = method)
      (hpoint : i.point = sidePoint side) (hbefore : i.before? = none) (hafter : i.after? = none)
      (hbody : i.body = body) (hm : (Target.resolve i.target method).outcome = .ok m)
      (hsig : ((writer.signature m).startingAt w).outcome = .ok (sig, v))
      (hsup : ((writer.superCall m).startingAt v).outcome = .ok (sup, w'))
      (hfull : i.fullMethod =
        Template.filled (Template.override sig sup r.tag side) r.tag body) :
      Carries writer w w'
        (((r.andThen aim).andThen (.overrideAt side method)).andThen (.withOverrideBody body)) i

/-- Configuring leaves the writer alone. -/
theorem Run.LeadsTo.state_eq {r : Run μ s} (h : r.LeadsTo writer w b w') (hs : s = .fresh) :
    w' = w := by
  induction r generalizing w' with
  | start => exact (Prod.mk.inj (Except.ok.inj h)).2.symm
  | andThen r m ih =>
    obtain ⟨b, v, hr, hm⟩ := h.of_andThen
    cases hm with
    | withConfig c => exact ih hr rfl
    | _ => exact nomatch hs

/-- A builder that is aimed at a class knows the class and nothing else. -/
theorem Run.LeadsTo.aimed {r : Run μ .targetSet} {b : Builder μ ω .targetSet}
    (h : r.LeadsTo writer w b w') :
    ∃ (r₀ : Run μ .fresh) (aim : Move μ .fresh .targetSet) (target : μ), r = r₀.andThen aim ∧
      aim.target? = some target ∧ b = ⟨writer, r₀.tag, { target := some target }⟩ ∧ w' = w := by
  cases r with
  | andThen r₀ aim =>
    obtain ⟨b₀, v, hr, hm⟩ := h.of_andThen
    have hb := hr.stageInvariant
    cases hm with
    | into target =>
      refine ⟨r₀, _, target, rfl, rfl, ?_, hr.state_eq rfl⟩
      rw [← hb.tag, ← hb.writer]
      rfl
    | @intoNamed _ _ _ _ target hc =>
      refine ⟨r₀, _, target, rfl, hc, ?_, hr.state_eq rfl⟩
      rw [← hb.tag, ← hb.writer]
      rfl

/-- A complete builder has been through one protocol or the other, call by call. -/
theorem Run.LeadsTo.carries {r : Run μ .complete} {b : Builder μ ω .complete}
    (h : r.LeadsTo writer w b w') : ∃ i, Finishes b i ∧ Carries writer w w' r i := by
  match r, h with
  | .andThen (.andThen (.andThen (.andThen r (.select method)) (.callAt side callee))
      (.withBody body)) (.elseCreate text), h =>
    obtain ⟨b₁, v₁, h₁, hm⟩ := h.of_andThen
    cases hm
    obtain ⟨b₂, v₂, h₂, hm⟩ := h₁.of_andThen
    cases hm
    obtain ⟨b₃, v₃, h₃, hm⟩ := h₂.of_andThen
    cases hm
    obtain ⟨b₄, v₄, h₄, hm⟩ := h₃.of_andThen
    cases hm
    obtain ⟨r₀, aim, target, rfl, ht, rfl, rfl⟩ := h₄.aimed
    refine ⟨_, finishes_of_check rfl, .atCall ht rfl rfl ?_ ?_ rfl rfl⟩
    · cases side <;> rfl
    · cases side <;> rfl
  | .andThen (.andThen r (.overrideAt side method)) (.withOverrideBody body), h =>
    obtain ⟨b₁, v₁, h₁, hm⟩ := h.of_andThen
    cases hm
    obtain ⟨b₂, v₂, h₂, hm⟩ := h₁.of_andThen
    cases hm with
    | overrideAt _ _ ht' hm hsig hsup =>
      obtain ⟨r₀, aim, target, rfl, ht, rfl, rfl⟩ := h₂.aimed
      obtain rfl := Option.some.inj ht'
      refine ⟨_, finishes_of_check rfl, .overriding ht rfl rfl ?_ ?_ rfl hm hsig hsup rfl⟩
      · cases side <;> rfl
      · cases side <;> rfl

/-- In every run the parts of a builder are those of its stage.  Once aimed, a builder that is to
    write an override always knows its class; once complete, it finishes, with what its calls have
    said. -/
theorem run_stage_invariant (writer : SignatureWriter ω) (w : ω) :
    (∀ {s : Stage} (r : Run μ s) (b : Builder μ ω s) (w' : ω), r.LeadsTo writer w b w' →
      StageInvariant writer r b) ∧
    (∀ (r : Run μ .targetSet) (b : Builder μ ω .targetSet) (w' : ω), r.LeadsTo writer w b w' →
      ∃ target, b.draft.target = some target ∧ ∀ side method v,
        (b.overrideAt side method).startingAt v = (do
          let m ← Target.resolve target method
          let sig ← (b.writer.signature m).startingAt v
          let sup ← (b.writer.superCall m).startingAt sig.2
          let template := Template.override sig.1 sup.1 b.tag side
          Attempt.ofLogged (.write .info ("Creating override " ++ template))
          pure (b.moveTo .overrideSet (overrideDraft b.draft side method template), sup.2))) ∧
    (∀ (r : Run μ .complete) (b : Builder μ ω .complete) (w' : ω), r.LeadsTo writer w b w' →
      ∃ i, Finishes b i ∧ Carries writer w w' r i) := by
  refine ⟨fun r b w' h => h.stageInvariant, fun r b w' h => ?_, fun r b w' h => h.carries⟩
  obtain ⟨_, _, target, -, -, rfl, -⟩ := h.aimed
  exact ⟨target, rfl, startingAt_overrideAt rfl⟩

/-- A run whose texts are all empty, with the placeholder configured twice. -/
theorem run_stage_invariant_emptyTexts :
    let r : Run Lineage .complete :=
      (((((((Run.start.andThen (.withConfig { bodyTag := "@" })).andThen
        (.withConfig { bodyTag := "" })).andThen (.into (.root ""))).andThen
        (.select "")).andThen (.callAt .after "")).andThen (.withBody "")).andThen
        (.elseCreate ""))
    ∃ b, r.LeadsTo .standard () b () ∧ StageInvariant .standard r b ∧
      ∃ i, Finishes b i ∧ Carries .standard () () r i :=
  have h := run_stage_invariant .standard ()
  ⟨_, rfl, h.1 _ _ _ rfl, h.2.2 _ _ _ rfl⟩

end Builder
end Splice
