/-
  Building an insertion in stages.

  There are two ways to a finished insertion.  One selects a method and a call inside it, and then
  gives the body and the text of the whole method for the case that it has to be created:

      fresh → targetSet → methodSet → pointSet → bodySet → complete

  The other resolves a method that is to be overridden and writes the text of the override itself,
  around the call of the overridden method:

      fresh → targetSet → overrideSet → complete

  The stage is part of the builder's TYPE, so a call out of order cannot be written.  What has been
  said so far stands in a `Draft` whose five parts are filled one by one; the stage is not read
  off the draft.  That a complete builder has a complete draft is therefore a fact about the calls,
  and `Draft.check` still refuses a draft with a part missing.

  The body is put into the text of the whole method when the insertion is finished.
-/
import Splice.Config
import Splice.Engine
import Splice.Method.Signature

namespace Splice

/-! ## The draft -/

/-- The parts of an insertion, as far as they have been said. -/
structure Draft (μ : Type) where
  target : Option μ := none
  method : Option String := none
  point : Option Point := none
  body : Option String := none
  fullMethod : Option String := none

/-- The five parts, all of them there; the text of the whole method is still a template. -/
def Draft.check {μ : Type} (d : Draft μ) : Except Failure (Insertion μ) :=
  match d with
  | ⟨some target, some method, some point, some body, some fullMethod⟩ =>
    .ok ⟨target, method, point, body, fullMethod⟩
  | _ => .error .incompleteSpecification

/-! ## The builder -/

/-- How far a builder has come. -/
inductive Stage
  | fresh
  | targetSet
  | methodSet
  | pointSet
  | bodySet
  | overrideSet
  | complete
deriving DecidableEq, Repr

/-- A builder at a stage: the writer of overrides, the placeholder, and the draft. -/
structure Builder (μ ω : Type) (stage : Stage) where
  writer : SignatureWriter ω
  tag : String := Template.defaultTag
  draft : Draft μ := {}

namespace Builder

variable {μ ω σ : Type} {s t : Stage}

/-- A builder to begin with. -/
def start (writer : SignatureWriter ω) : Builder μ ω .fresh := { writer }

/-- The builder at another stage, with another draft. -/
def moveTo (b : Builder μ ω s) (t : Stage) (draft : Draft μ) : Builder μ ω t :=
  { writer := b.writer, tag := b.tag, draft := draft }

/-- Use the configured placeholder. -/
def withConfig (b : Builder μ ω .fresh) (c : Config) : Builder μ ω .fresh :=
  { b with tag := c.bodyTag }

/-- Insert into this class. -/
def into (b : Builder μ ω .fresh) (target : μ) : Builder μ ω .targetSet :=
  b.moveTo .targetSet { target := some target }

/-- Insert into the class of that name. -/
def intoNamed (b : Builder μ ω .fresh) (classes : String → Option μ) (name : String) :
    Except Failure (Builder μ ω .targetSet) :=
  match classes name with
  | some target => .ok (b.into target)
  | none => .error (.moduleNotFound name)

/-- Insert into the method of that name; whether there is one is not looked at. -/
def select (b : Builder μ ω .targetSet) (method : String) : Builder μ ω .methodSet :=
  b.moveTo .methodSet { b.draft with method := some method }

/-- Put the body before a call. -/
def beforeCall (b : Builder μ ω .methodSet) (callee : String) : Builder μ ω .pointSet :=
  b.moveTo .pointSet { b.draft with point := some (.beforeCall callee) }

/-- Put the body after a call. -/
def afterCall (b : Builder μ ω .methodSet) (callee : String) : Builder μ ω .pointSet :=
  b.moveTo .pointSet { b.draft with point := some (.afterCall callee) }

/-- The body to insert at a call. -/
def withBody (b : Builder μ ω .pointSet) (body : String) : Builder μ ω .bodySet :=
  b.moveTo .bodySet { b.draft with body := some body }

/-- The text of the method, should it have to be created. -/
def elseCreate (b : Builder μ ω .bodySet) (fullMethod : String) : Builder μ ω .complete :=
  b.moveTo .complete { b.draft with fullMethod := some fullMethod }

/-- The point at the call of the overridden method. -/
def sidePoint : Template.Side → Point
  | .before => .beforeSuperCall
  | .after => .afterSuperCall

/-- Override the method of that name: resolve it, and write the override's template. -/
def overrideAt [Target μ] (b : Builder μ ω .targetSet) (side : Template.Side) (method : String) :
    Effect ω (Builder μ ω .overrideSet) := do
  match b.draft.target with
  | none => throw .incompleteSpecification
  | some target =>
    let overridden ← Effect.ofAttempt (Target.resolve target method)
    let signature ← b.writer.signature overridden
    let superCall ← b.writer.superCall overridden
    let template := Template.override signature superCall b.tag side
    Effect.ofAttempt (.ofLogged (.write .info ("Creating override " ++ template)))
    pure (b.moveTo .overrideSet
      { b.draft with
        method := some method, point := some (sidePoint side), fullMethod := some template })

/-- Override a method and put the body before the call of the overridden one. -/
def beforeOverride [Target μ] (b : Builder μ ω .targetSet) (method : String) :
    Effect ω (Builder μ ω .overrideSet) :=
  b.overrideAt .before method

/-- Override a method and put the body after the call of the overridden one. -/
def afterOverride [Target μ] (b : Builder μ ω .targetSet) (method : String) :
    Effect ω (Builder μ ω .overrideSet) :=
  b.overrideAt .after method

/-- The template of the override, the body not yet put in. -/
def template (b : Builder μ ω .overrideSet) : String := b.draft.fullMethod.getD ""

/-- The body of the override. -/
def withOverrideBody (b : Builder μ ω .overrideSet) (body : String) : Builder μ ω .complete :=
  b.moveTo .complete { b.draft with body := some body }

/-- The insertion of a draft, with the body put into the text of the whole method. -/
def assemble (draft : Draft μ) (tag : String) : Attempt (Insertion μ) := do
  let i ← Attempt.ofExcept draft.check
  let fullMethod ← Attempt.ofLogged (Template.fill i.fullMethod tag i.body)
  pure { i with fullMethod }

/-- The finished insertion. -/
def finalize (b : Builder μ ω .complete) : Attempt (Insertion μ) := assemble b.draft b.tag

/-- Finish the insertion and hand it to an engine. -/
def buildAndApply (b : Builder μ ω .complete) (engine : Engine σ μ) : Effect σ Unit := do
  let i ← Effect.ofAttempt (assemble b.draft b.tag)
  engine i

end Builder

/-! ## At work -/

example :
    let b : Builder Lineage Unit .complete :=
      ((((Builder.start .standard).into (.overridingPair "f")).select "f").afterCall "g").withBody
        "x();" |>.elseCreate "void f() BODY"
    b.finalize.outcome.toOption.map Insertion.fullMethod = some "void f() x();" := by
  decide +kernel

end Splice
