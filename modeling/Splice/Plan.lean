/-
  Planning the insertion of a manifest.

  The declarations are linked as a whole, the configured placeholder is used, and the request goes
  through the stages of a builder to an engine that only plans.  What can fail fails in this order:
  linking, the class, the method of an override, the text of that method.
-/
import Splice.Builder
import Splice.Manifest
import Splice.Pool.Linking

namespace Splice

namespace Request

/-- The builder of a request, all stages gone through. -/
def builder (classes : String → Option Lineage) (c : Config) :
    Request → Attempt (Builder Lineage Unit .complete)
  | .atCall side className method callee body fullMethod => do
    let b := (Builder.start .standard).withConfig c
    let b ← Attempt.ofExcept (b.intoNamed classes className)
    let b := b.select method
    let b := match side with
      | .before => b.beforeCall callee
      | .after => b.afterCall callee
    pure ((b.withBody body).elseCreate fullMethod)
  | .overriding side className method body => do
    let b := (Builder.start .standard).withConfig c
    let b ← Attempt.ofExcept (b.intoNamed classes className)
    let (b, _) ← match side with
      | .before => (b.beforeOverride method).startingAt ()
      | .after => (b.afterOverride method).startingAt ()
    pure (b.withOverrideBody body)

end Request

/-- The insertion a manifest asks for. -/
def Manifest.plan (m : Manifest) (c : Config) : Attempt Summary := do
  let pool ← Attempt.ofExcept (Pool.link m.classes)
  let b ← m.request.builder pool.get? c
  let (_, planned) ← (b.buildAndApply planner).startingAt none
  match planned with
  | some s => pure s
  | none => throw (.other "Insertion was finalized but never reached the engine")

end Splice
