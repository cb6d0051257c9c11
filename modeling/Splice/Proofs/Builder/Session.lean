/-
  What a run of calls comes to, call by call.

  1. **One call at a time** — the first call of a run answers and the run goes on with what is in
     hand then (`run_cons_of_ok`), or it fails (`run_cons_of_error`), or what is in hand has no
     such call (`run_cons_of_none`); the last two end the run.

  2. **Every call there is** — `Offers` lists the calls that something in hand has, with their
     effects.  Most are calls that a stage offers (`Move`), which use the writer and leave the
     engine alone.

  3. **What stays so** — what is in hand is right for its stage and has the writer that the run was
     begun with (`Sound`).  Every call keeps it so (`Offers.sound`).

  4. **A whole run** — `Traced` has the exchanges of a run as an index: every call that was
     answered, with what it was made on and what became of it.  A run is traced (`Traced.of_run`),
     and what is true of runs is shown by induction on that.
-/
import Splice.Builder.Session
import Splice.Proofs.Builder.Run

namespace Splice

variable {μ ω σ : Type}

/-- What has become of a call, from its outcome. -/
def Answer.of : Except Failure (Held ω μ) → Answer ω μ
  | .ok next => .reached next
  | .error f => .failed f

/-- A call that was made, with what it was made on and what became of it. -/
structure Exchange (ω μ : Type) where
  held : Held ω μ
  call : Call μ
  answer : Answer ω μ

/-- The calls of a run, as far as they were answered. -/
def Held.exchanges : Held ω μ → List (Call μ) → List (Answer ω μ) → List (Exchange ω μ)
  | held, call :: calls, answer :: answers =>
    ⟨held, call, answer⟩ ::
      match answer with
      | .reached next => next.exchanges calls answers
      | _ => []
  | _, _, _ => []

namespace Held

variable [Target μ] {classes : String → Option μ} {engine : Engine σ μ} {held next : Held ω μ}
  {call : Call μ} {effect : Effect (ω × σ) (Held ω μ)} {st st' : ω × σ} {f : Failure}

/-! ## One call at a time -/

theorem run_nil (held : Held ω μ) (st : ω × σ) :
    (run classes engine held []).run st = ⟨([], st), []⟩ := by
  rw [run]
  rfl

/-- Once the insertion is applied there is nothing more to do. -/
theorem run_applied (calls : List (Call μ)) (st : ω × σ) :
    (run classes engine (.applied : Held ω μ) calls).run st = ⟨([], st), []⟩ := by
  cases calls with
  | nil => rfl
  | cons call calls => rfl

theorem ne_applied_of_step (h : step classes engine held call = some effect) :
    held ≠ .applied := by
  rintro rfl
  exact nomatch h

/-- A call that answers is followed by the calls on what it leads to. -/
theorem run_cons_of_ok (h : step classes engine held call = some effect)
    (hr : (effect.run st).value = (.ok next, st')) (calls : List (Call μ)) :
    (run classes engine held (call :: calls)).run st =
      ⟨(.reached next :: ((run classes engine next calls).run st').value.1,
          ((run classes engine next calls).run st').value.2),
        (effect.run st).records ++ ((run classes engine next calls).run st').records⟩ := by
  have hr : (effect.run.run st).value = (.ok next, st') := hr
  rw [run, h]
  · apply Logged.ext
    · rw [StateT.run_bind, Logged.value_bind, hr]
      rfl
    · rw [StateT.run_bind, Logged.records_bind, hr]
      exact congrArg _ (List.append_nil _)
  · exact ne_applied_of_step h

/-- A call that fails ends the run. -/
theorem run_cons_of_error (h : step classes engine held call = some effect)
    (hr : (effect.run st).value = (.error f, st')) (calls : List (Call μ)) :
    (run classes engine held (call :: calls)).run st =
      ⟨([.failed f], st'), (effect.run st).records⟩ := by
  have hr : (effect.run.run st).value = (.error f, st') := hr
  rw [run, h]
  · apply Logged.ext
    · rw [StateT.run_bind, Logged.value_bind, hr]
      rfl
    · rw [StateT.run_bind, Logged.records_bind, hr]
      exact List.append_nil _
  · exact ne_applied_of_step h

/-- A call that does not exist ends the run. -/
theorem run_cons_of_none (h : step classes engine held call = none) (hne : held ≠ .applied)
    (calls : List (Call μ)) (st : ω × σ) :
    (run classes engine held (call :: calls)).run st = ⟨([.illegal], st), []⟩ := by
  rw [run, h]
  · rfl
  · exact hne

/-! ## Every call there is -/

/-- The calls that something in hand has, with their effects. -/
inductive Offers (classes : String → Option μ) (engine : Engine σ μ) :
    Held ω μ → Call μ → Effect (ω × σ) (Held ω μ) → Prop
  | move {s t : Stage} {b : Builder μ ω s} {call : Call μ} (m : Builder.Move μ s t) :
      Offers classes engine (.building s b) call
        (do
          let b' ← (m.perform b).onFirst
          pure (.building t b'))
  | finalize {b : Builder μ ω .complete} :
      Offers classes engine (.building .complete b) .finalize
        (do
          let i ← Effect.ofAttempt b.finalize
          pure (.finalized i))
  | buildAndApply {b : Builder μ ω .complete} :
      Offers classes engine (.building .complete b) .buildAndApply
        (do
          (b.buildAndApply engine).onSecond
          pure .applied)
  | apply {i : Insertion μ} :
      Offers classes engine (.finalized i) .apply
        (do
          (engine i).onSecond
          pure .applied)

/-- A call that exists is one of these. -/
theorem Offers.of_step (h : step classes engine held call = some effect) :
    Offers classes engine held call effect := by
  cases held with
  | building s b =>
    cases s with
    | fresh =>
      cases call with
      | config tag => exact Option.some.inj h ▸ .move (.withConfig { bodyTag := tag })
      | into target => exact Option.some.inj h ▸ .move (.into target)
      | intoNamed name => exact Option.some.inj h ▸ .move (.intoNamed classes name)
      | _ => exact nomatch h
    | targetSet =>
      cases call with
      | select method => exact Option.some.inj h ▸ .move (.select method)
      | beforeOverride method => exact Option.some.inj h ▸ .move (.overrideAt .before method)
      | afterOverride method => exact Option.some.inj h ▸ .move (.overrideAt .after method)
      | _ => exact nomatch h
    | methodSet =>
      cases call with
      | beforeCall callee => exact Option.some.inj h ▸ .move (.callAt .before callee)
      | afterCall callee => exact Option.some.inj h ▸ .move (.callAt .after callee)
      | _ => exact nomatch h
    | pointSet =>
      cases call with
      | body text => exact Option.some.inj h ▸ .move (.withBody text)
      | _ => exact nomatch h
    | bodySet =>
      cases call with
      | elseCreate text => exact Option.some.inj h ▸ .move (.elseCreate text)
      | _ => exact nomatch h
    | overrideSet =>
      cases call with
      | body text => exact Option.some.inj h ▸ .move (.withOverrideBody text)
      | _ => exact nomatch h
    | complete =>
      cases call with
      | finalize => exact Option.some.inj h ▸ .finalize
      | buildAndApply => exact Option.some.inj h ▸ .buildAndApply
      | _ => exact nomatch h
  | finalized i =>
    cases call with
    | apply => exact Option.some.inj h ▸ .apply
    | _ => exact nomatch h
  | applied => exact nomatch h

/-! ## What stays so -/

/-- What is in hand is right for its stage, and has the writer the run was begun with. -/
def Sound (writer : SignatureWriter ω) : Held ω μ → Prop
  | .building s b => b.draft.Fits s ∧ b.writer = writer
  | _ => True

omit [Target μ] in
theorem sound_start (writer : SignatureWriter ω) :
    Sound writer (.building .fresh (Builder.start writer) : Held ω μ) :=
  ⟨Builder.fits_start writer, rfl⟩

/-- A call keeps it so. -/
theorem Offers.sound {writer : SignatureWriter ω} (h : Offers classes engine held call effect)
    (hs : held.Sound writer) (hr : (effect.run st).value = (.ok next, st')) :
    next.Sound writer := by
  cases h with
  | @move s t b call m =>
    obtain ⟨w, v⟩ := st
    obtain ⟨b', hb', rfl⟩ := Effect.exists_of_run_bind_pure hr
    rw [Effect.run_onFirst] at hb'
    have hmade : Builder.Made m b w b' st'.1 := by
      apply Builder.Made.of_perform
      rw [Effect.outcome_startingAt, ← (Prod.mk.inj hb').2, (Prod.mk.inj hb').1]
      rfl
    exact ⟨hmade.fits hs.1, hmade.tag_eq.1.trans hs.2⟩
  | finalize =>
    obtain ⟨i, -, rfl⟩ := Effect.exists_of_run_bind_pure hr
    trivial
  | buildAndApply =>
    obtain ⟨-, -, rfl⟩ := Effect.exists_of_run_bind_pure hr
    trivial
  | apply =>
    obtain ⟨-, -, rfl⟩ := Effect.exists_of_run_bind_pure hr
    trivial

/-! ## A whole run -/

/-- The calls lead from one state to another by these exchanges. -/
inductive Traced (classes : String → Option μ) (engine : Engine σ μ) :
    Held ω μ → List (Call μ) → ω × σ → List (Exchange ω μ) → ω × σ → Prop
  | stopped (held : Held ω μ) (st : ω × σ) : Traced classes engine held [] st [] st
  | applied (calls : List (Call μ)) (st : ω × σ) : Traced classes engine .applied calls st [] st
  | illegal {held : Held ω μ} {call : Call μ} (h : step classes engine held call = none)
      (hne : held ≠ .applied) (calls : List (Call μ)) (st : ω × σ) :
      Traced classes engine held (call :: calls) st [⟨held, call, .illegal⟩] st
  | failed {held : Held ω μ} {call : Call μ} {effect : Effect (ω × σ) (Held ω μ)} {st st' : ω × σ}
      {f : Failure} (h : step classes engine held call = some effect)
      (hr : (effect.run st).value = (.error f, st')) (calls : List (Call μ)) :
      Traced classes engine held (call :: calls) st [⟨held, call, .failed f⟩] st'
  | reached {held next : Held ω μ} {call : Call μ} {effect : Effect (ω × σ) (Held ω μ)}
      {st st' st'' : ω × σ} {calls : List (Call μ)} {xs : List (Exchange ω μ)}
      (h : step classes engine held call = some effect)
      (hr : (effect.run st).value = (.ok next, st'))
      (hrest : Traced classes engine next calls st' xs st'') :
      Traced classes engine held (call :: calls) st (⟨held, call, .reached next⟩ :: xs) st''

/-- A run leads to the state it leaves by its exchanges, and these are all its answers. -/
theorem Traced.of_run (classes : String → Option μ) (engine : Engine σ μ) (held : Held ω μ)
    (calls : List (Call μ)) (st : ω × σ) :
    let out := ((run classes engine held calls).run st).value
    Traced classes engine held calls st (held.exchanges calls out.1) out.2 ∧
      (held.exchanges calls out.1).map Exchange.answer = out.1 := by
  induction calls generalizing held st with
  | nil =>
    rw [run_nil]
    exact ⟨.stopped held st, rfl⟩
  | cons call calls ih =>
    cases h : step classes engine held call with
    | none =>
      by_cases hne : held = .applied
      · rw [hne, run_applied]
        exact ⟨.applied _ st, rfl⟩
      · rw [run_cons_of_none h hne]
        exact ⟨.illegal h hne calls st, rfl⟩
    | some effect =>
      rcases hr : (effect.run st).value with ⟨f | next, st'⟩
      · rw [run_cons_of_error h hr]
        exact ⟨.failed h hr calls, rfl⟩
      · rw [run_cons_of_ok h hr]
        obtain ⟨htraced, hanswers⟩ := ih next st'
        exact ⟨.reached h hr htraced, congrArg _ hanswers⟩

end Held

end Splice
