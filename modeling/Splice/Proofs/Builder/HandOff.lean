/-
  Two ways to hand an insertion over.

  A complete builder can be finished, and the insertion applied by a call of its own; or both can
  be done in one call.  Nothing tells the two apart (`HandsOver`): the engine is called once, with
  the same insertion and in the same state, its answer comes back as it is, and its records stand
  after the one that reports a body without a place.  Finishing alone calls no engine.

  Every builder that a run has made complete hands over in this way (`Run.LeadsTo.handsOver`), in
  either protocol and for every engine.  What carries this is that finishing never fails there.
-/
import Splice.Proofs.Builder.Delivery
import Splice.Proofs.Builder.Session

namespace Splice

variable {μ ω σ : Type}

/-- The engine with a list of the insertions handed to it, also of those it fails on. -/
def Engine.watched (e : Engine σ μ) : Engine (σ × List (Insertion μ)) μ := fun i =>
  ExceptT.mk fun (s, is) => (fun (r, s') => (r, (s', is ++ [i]))) <$> (e i).run s

/-- The insertions that the calls hand to the engine. -/
def Held.handed [Target μ] (classes : String → Option μ) (engine : Engine σ μ) (held : Held ω μ)
    (calls : List (Call μ)) (w : ω) (s : σ) : List (Insertion μ) :=
  ((held.run classes engine.watched calls).run (w, (s, []))).value.2.2.2

/-- What an engine answers, as the answer to the call that has brought it the insertion. -/
def Answer.ofEngine (x : Except Failure Unit) : Answer ω μ := .of (x.map fun _ => .applied)

namespace Builder

variable [Target μ] {classes : String → Option μ} {b : Builder μ ω .complete} {i : Insertion μ}

/-! ## One call -/

/-- A call that leaves all to an engine ends the run, and its answer is the engine's. -/
theorem run_engine_call {engine : Engine σ μ} {held : Held ω μ} {call : Call μ} {x : Effect σ Unit}
    (h : held.step classes engine call = some (do
      x.onSecond
      pure .applied)) (w : ω) (s : σ) :
    (Held.run classes engine held [call]).run (w, s) =
      ⟨([.ofEngine (x.run s).value.1], (w, (x.run s).value.2)), (x.run s).records⟩ := by
  have hr : (do x.onSecond; pure Held.applied : Effect (ω × σ) (Held ω μ)).run (w, s) =
      ⟨((x.run s).value.1.map fun _ => .applied, (w, (x.run s).value.2)), (x.run s).records⟩ := by
    rw [Effect.run_bind_pure, Effect.run_onSecond]
  rcases hx : (x.run s).value with ⟨f | _, s'⟩
  · rw [hx] at hr
    rw [Held.run_cons_of_error h (congrArg Logged.value hr), hr]
    rfl
  · rw [hx] at hr
    rw [Held.run_cons_of_ok h (congrArg Logged.value hr), hr, Held.run_applied]
    exact Logged.ext rfl (List.append_nil _)

/-- Finishing uses neither the writer nor the engine, and the run goes on with the insertion. -/
theorem run_finalize_cons (h : b.finalize.outcome = .ok i) (engine : Engine σ μ)
    (calls : List (Call μ)) (st : ω × σ) :
    (Held.run classes engine (.building .complete b) (.finalize :: calls)).run st =
      ⟨(.reached (.finalized i) ::
          ((Held.run classes engine (.finalized i) calls).run st).value.1,
          ((Held.run classes engine (.finalized i) calls).run st).value.2),
        b.finalize.records ++ ((Held.run classes engine (.finalized i) calls).run st).records⟩ := by
  have hr : (do
        let i ← Effect.ofAttempt b.finalize
        pure (Held.finalized i) : Effect (ω × σ) (Held ω μ)).run st =
      ⟨(.ok (.finalized i), st), b.finalize.records⟩ := by
    rw [Effect.run_bind_pure, Effect.run_ofAttempt, h]
    rfl
  rw [Held.run_cons_of_ok rfl (congrArg Logged.value hr), hr]

omit [Target μ] in
/-- Applying at once is what the engine does, after the record of finishing. -/
theorem run_buildAndApply (h : b.finalize.outcome = .ok i) (engine : Engine σ μ) (s : σ) :
    (b.buildAndApply engine).run s =
      ⟨((engine i).run s).value, b.finalize.records ++ ((engine i).run s).records⟩ := by
  have hr : (Effect.ofAttempt b.finalize : Effect σ (Insertion μ)).run s =
      ⟨(.ok i, s), b.finalize.records⟩ := by
    rw [Effect.run_ofAttempt, h]
  show (Effect.ofAttempt b.finalize >>= engine).run s = _
  rw [Effect.run_bind_of_ok (congrArg Logged.value hr), hr]

/-! ## Both ways -/

theorem run_finalize (h : b.finalize.outcome = .ok i) (engine : Engine σ μ) (w : ω) (s : σ) :
    (Held.run classes engine (.building .complete b) [.finalize]).run (w, s) =
      ⟨([.reached (.finalized i)], (w, s)), b.finalize.records⟩ := by
  rw [run_finalize_cons h, Held.run_nil]
  exact Logged.ext rfl (List.append_nil _)

theorem run_finalize_apply (h : b.finalize.outcome = .ok i) (engine : Engine σ μ) (w : ω) (s : σ) :
    (Held.run classes engine (.building .complete b) [.finalize, .apply]).run (w, s) =
      ⟨([.reached (.finalized i), .ofEngine ((engine i).run s).value.1],
          (w, ((engine i).run s).value.2)),
        b.finalize.records ++ ((engine i).run s).records⟩ := by
  rw [run_finalize_cons h, run_engine_call rfl]

/-- Finishing and applying in one call gives all that the two calls give, but for the first of
    their answers. -/
theorem run_buildAndApply_eq (h : b.finalize.outcome = .ok i) (engine : Engine σ μ) (w : ω)
    (s : σ) :
    (Held.run classes engine (.building .complete b) [.buildAndApply]).run (w, s) =
      (List.tail <$>
        Held.run classes engine (.building .complete b) [.finalize, .apply]).run (w, s) := by
  rw [run_engine_call rfl, run_buildAndApply h, StateT.run_map, run_finalize_apply h]
  apply Logged.ext
  · rfl
  · rw [Logged.records_map]

/-- What finishing the builder `b` and applying its insertion `i` come to, with any engine and in
    any state of it and of the writer. -/
structure HandsOver (b : Builder μ ω .complete) (i : Insertion μ) : Prop where
  /-- Finishing leaves the writer and the engine alone. -/
  alone : ∀ {σ : Type} (classes : String → Option μ) (engine : Engine σ μ) (w : ω) (s : σ),
    (Held.run classes engine (.building .complete b) [.finalize]).run (w, s) =
      ⟨([.reached (.finalized i)], (w, s)), b.finalize.records⟩
  /-- Applying afterwards is what the engine does with `i`. -/
  later : ∀ {σ : Type} (classes : String → Option μ) (engine : Engine σ μ) (w : ω) (s : σ),
    (Held.run classes engine (.building .complete b) [.finalize, .apply]).run (w, s) =
      ⟨([.reached (.finalized i), .ofEngine ((engine i).run s).value.1],
          (w, ((engine i).run s).value.2)),
        b.finalize.records ++ ((engine i).run s).records⟩
  /-- Doing both in one call differs in nothing but the answer to finishing. -/
  atOnce : ∀ {σ : Type} (classes : String → Option μ) (engine : Engine σ μ) (w : ω) (s : σ),
    (Held.run classes engine (.building .complete b) [.buildAndApply]).run (w, s) =
      (List.tail <$> Held.run classes engine (.building .complete b) [.finalize, .apply]).run (w, s)
  /-- Finishing alone does not call the engine. -/
  uncalled : ∀ {σ : Type} (classes : String → Option μ) (engine : Engine σ μ) (w : ω) (s : σ),
    (Held.building .complete b).handed classes engine [.finalize] w s = []
  /-- Either way it is called once, with `i`. -/
  once : ∀ {σ : Type} (classes : String → Option μ) (engine : Engine σ μ) (w : ω) (s : σ),
    (Held.building .complete b).handed classes engine [.finalize, .apply] w s = [i] ∧
      (Held.building .complete b).handed classes engine [.buildAndApply] w s = [i]

/-- A complete builder that can be finished hands over in either way. -/
theorem handsOver_of_finalize (h : b.finalize.outcome = .ok i) : HandsOver b i where
  alone classes engine w s := run_finalize h engine w s
  later classes engine w s := run_finalize_apply h engine w s
  atOnce classes engine w s := run_buildAndApply_eq h engine w s
  uncalled classes engine w s := by
    rw [Held.handed, run_finalize h]
  once classes engine w s := by
    constructor
    · rw [Held.handed, run_finalize_apply h]
      rfl
    · rw [Held.handed, run_buildAndApply_eq h, StateT.run_map, run_finalize_apply h]
      rfl

/-- A builder that a run has made complete can be finished, and it makes no difference whether its
    insertion is then applied by a call of its own or both are done in one call. -/
theorem Run.LeadsTo.handsOver {writer : SignatureWriter ω} {w w' : ω} {r : Run μ .complete}
    (h : r.LeadsTo writer w b w') : ∃ i, b.finalize.outcome = .ok i ∧ HandsOver b i := by
  obtain ⟨i, hi⟩ := h.stageInvariant.fits.exists_finalize
  exact ⟨i, hi, handsOver_of_finalize hi⟩

/-- An insertion whose body has no place: that is on record before what the engine reports. -/
theorem handsOver_planner :
    let r : Run Lineage .complete :=
      ((((((Run.start.andThen (.withConfig { bodyTag := "" })).andThen (.into (.root "A"))).andThen
        (.select "f")).andThen (.callAt .before "g")).andThen (.withBody "x")).andThen
        (.elseCreate "y"))
    ∃ (b : Builder Lineage Unit .complete) (i : Insertion Lineage), r.LeadsTo .standard () b () ∧
      b.finalize.outcome = .ok i ∧ HandsOver b i ∧
      ((Held.run (fun _ => none) planner (.building .complete b) [.finalize, .apply]).run
          ((), none)).records =
        [Template.tagMissing "", ⟨.info, "Planned insertion into A.f"⟩] := by
  intro r
  have hr : r.LeadsTo .standard () _ () := rfl
  obtain ⟨i, hi, h⟩ := Run.LeadsTo.handsOver hr
  exact ⟨_, i, hr, hi, h, by decide +kernel⟩

end Builder

end Splice
