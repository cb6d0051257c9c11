/-
  Runs of builders: calls that arrive one at a time, as data.

  A `Call` is a builder call with its argument, and `Held` is what is in hand between two calls: a
  builder at some stage, a finished insertion, or nothing more to do.  `Held.step` gives the effect
  of a call, or nothing if the stage has no such call.  A run goes through a list of calls and ends
  early at a call that does not exist at its stage, at a failure, and once the insertion has been
  applied.

  The target of an insertion may be of any type; unless another is named it is a class with its
  ancestors.

  Several runs made one after the other share the state of the writer and that of the engine.
-/
import Splice.Builder

namespace Splice

/-- A builder call with its argument. -/
inductive Call (μ : Type := Lineage)
  | config (tag : String)
  | into (target : μ)
  | intoNamed (name : String)
  | select (method : String)
  | beforeOverride (method : String)
  | afterOverride (method : String)
  | beforeCall (callee : String)
  | afterCall (callee : String)
  | body (text : String)
  | elseCreate (fullMethod : String)
  | finalize
  | buildAndApply
  | apply
deriving DecidableEq, Repr

/-- Insert into the lower of two classes that both declare the method. -/
abbrev Call.intoOverridingPair (method : String) : Call := .into (.overridingPair method)

/-- What is in hand between two calls. -/
inductive Held (ω : Type) (μ : Type := Lineage)
  | building (stage : Stage) (b : Builder μ ω stage)
  | finalized (i : Insertion μ)
  | applied

/-- What became of a call. -/
inductive Answer (ω : Type) (μ : Type := Lineage)
  | reached (h : Held ω μ)
  | failed (f : Failure)
  | illegal

namespace Held

variable {ω σ μ : Type} [Target μ]

/-- The effect of a call on the writer's and the engine's state, if what is held has such a call. -/
def step (classes : String → Option μ) (engine : Engine σ μ) :
    Held ω μ → Call μ → Option (Effect (ω × σ) (Held ω μ))
  | .building .fresh b, .config tag =>
    some (pure (.building .fresh (b.withConfig { bodyTag := tag })))
  | .building .fresh b, .into target => some (pure (.building .targetSet (b.into target)))
  | .building .fresh b, .intoNamed name =>
    some (do
      let b ← Effect.ofAttempt (.ofExcept (b.intoNamed classes name))
      pure (.building .targetSet b))
  | .building .targetSet b, .select method => some (pure (.building .methodSet (b.select method)))
  | .building .targetSet b, .beforeOverride method =>
    some (do
      let b ← (b.beforeOverride method).onFirst
      pure (.building .overrideSet b))
  | .building .targetSet b, .afterOverride method =>
    some (do
      let b ← (b.afterOverride method).onFirst
      pure (.building .overrideSet b))
  | .building .methodSet b, .beforeCall c => some (pure (.building .pointSet (b.beforeCall c)))
  | .building .methodSet b, .afterCall c => some (pure (.building .pointSet (b.afterCall c)))
  | .building .pointSet b, .body text => some (pure (.building .bodySet (b.withBody text)))
  | .building .bodySet b, .elseCreate text =>
    some (pure (.building .complete (b.elseCreate text)))
  | .building .overrideSet b, .body text =>
    some (pure (.building .complete (b.withOverrideBody text)))
  | .building .complete b, .finalize =>
    some (do
      let i ← Effect.ofAttempt b.finalize
      pure (.finalized i))
  | .building .complete b, .buildAndApply =>
    some (do
      (b.buildAndApply engine).onSecond
      pure .applied)
  | .finalized i, .apply =>
    some (do
      (engine i).onSecond
      pure .applied)
  | _, _ => none

/-- Make the calls one after the other, as far as they go. -/
def run (classes : String → Option μ) (engine : Engine σ μ) :
    Held ω μ → List (Call μ) → StateT (ω × σ) Logged (List (Answer ω μ))
  | _, [] => pure []
  | .applied, _ => pure []
  | held, call :: calls =>
    match step classes engine held call with
    | none => pure [.illegal]
    | some effect => do
      match ← effect.run with
      | .error f => pure [.failed f]
      | .ok held => do
        let answers ← run classes engine held calls
        pure (.reached held :: answers)

end Held

end Splice
