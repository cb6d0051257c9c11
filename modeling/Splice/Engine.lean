/-
  Engines: what a finished insertion is handed to.

  An engine is any state-changing operation that takes an insertion and may fail; whatever it
  answers goes back to the caller as it is.  Two engines are given here.  A `Recorder` keeps the
  summary of every insertion, or fails each time with a fixed text.  A planner keeps the last
  summary and puts on record what would have been done.

  `Engine.traced` adds to an engine a list of the hand-offs made to it.
-/
import Splice.Insertion

namespace Splice

/-- What insertions are handed to. -/
abbrev Engine (σ μ : Type) := Insertion μ → Effect σ Unit

namespace Engine

variable {σ μ : Type} [Target μ]

/-- The engine with a list of the hand-offs made to it, also of those that fail. -/
def traced (e : Engine σ μ) : Engine (σ × List String) μ := fun i =>
  ExceptT.mk fun (s, lines) =>
    (fun (r, s') => (r, (s', lines ++ [i.handOff]))) <$> (e i).run s

end Engine

/-- The state of an engine that only records. -/
structure Recorder where
  applied : List Summary := []
  /-- What every application fails with, if it is to fail. -/
  failure : Option String := none
deriving DecidableEq, Repr

/-- The engine that only records. -/
def Recorder.engine {μ : Type} [Target μ] : Engine Recorder μ := fun i =>
  ExceptT.mk fun r => match r.failure with
    | some text => pure (.error (.other text), r)
    | none => pure (.ok (), { r with applied := r.applied ++ [i.summary] })

/-- The engine that only plans: its state is the last insertion it was given. -/
def planner {μ : Type} [Target μ] : Engine (Option Summary) μ := fun i =>
  ExceptT.mk fun _ => do
    Logged.write .info ("Planned insertion into " ++ Target.name i.target ++ "." ++ i.method)
    pure (.ok (), some i.summary)

end Splice
