/-
  Manifests: the declarations of classes, and the one insertion that is asked for.

      [[class]]
      name = "Target"
      superclass = "Base"
      [[class.method]]
      name = "foo"

      [insertion]
      mode = "before-override"
      class = "Target"
      method = "foo"
      body = "log();"

  A `Request` is one of four, told apart by `mode`; only the two that go by a call name the call
  and the text of the whole method.  The mode is read before anything else of the insertion.
-/
import Splice.Lineage
import Splice.Template
import Splice.Value

namespace Splice

/-! ## Requests -/

/-- An insertion that is asked for. -/
inductive Request
  /-- Insert at a call inside the method. -/
  | atCall (side : Template.Side) (className method callee body fullMethod : String)
  /-- Override the method. -/
  | overriding (side : Template.Side) (className method body : String)
deriving DecidableEq, Repr

/-- The class a request is about. -/
def Request.className : Request → String
  | .atCall _ c _ _ _ _ => c
  | .overriding _ c _ _ => c

/-- The method a request is about. -/
def Request.method : Request → String
  | .atCall _ _ m _ _ _ => m
  | .overriding _ _ m _ => m

/-- The body a request brings. -/
def Request.body : Request → String
  | .atCall _ _ _ _ b _ => b
  | .overriding _ _ _ b => b

/-- Declarations, and what is asked for. -/
structure Manifest where
  classes : List Declaration := []
  request : Request
deriving Repr

/-! ## Reading -/

/-- A method declaration. -/
def Method.ofValue (d : Dialect) (v : Value) : Decoded Method := do
  let f ← v.fields d "struct MethodModel"
    ["name", "return_type", "parameters", "modifiers", "exceptions"]
  let exceptions ← f.get? "exceptions" (·.asList d (·.asText d))
  let modifiers ← f.get? "modifiers" (·.asList d (·.asText d))
  let name ← f.get? "name" (·.asText d)
  let parameters ← f.get? "parameters" (·.asList d (·.asText d))
  let returnType ← f.get? "return_type" (·.asText d)
  let name ← f.require "name" name
  f.finish d.surplus
  let m := Method.named name
  pure { m with
    returnType := returnType.getD m.returnType
    parameters := parameters.getD m.parameters
    modifiers := modifiers.getD m.modifiers
    exceptions := exceptions.getD m.exceptions }

/-- A class declaration. -/
def Declaration.ofValue (d : Dialect) (v : Value) : Decoded Declaration := do
  let f ← v.fields d "struct ClassDecl" ["name", "superclass", "method"]
  let methods ← f.get? "method" (·.asList d (Method.ofValue d))
  let name ← f.get? "name" (·.asText d)
  let superclass ← f.get? "superclass" (·.asTextOrNull d)
  let name ← f.require "name" name
  f.finish d.surplus
  pure ⟨name, superclass.join, methods.getD []⟩

/-- A list of class declarations. -/
def Declaration.listOfValue (d : Dialect) (v : Value) : Decoded (List Declaration) :=
  v.asList d (Declaration.ofValue d)

/-- The four modes of an insertion. -/
inductive Mode
  | call (side : Template.Side)
  | override (side : Template.Side)
deriving DecidableEq, Repr

namespace Mode

/-- The modes by name. -/
def choices : List (String × Mode) :=
  [("before-call", .call .before), ("after-call", .call .after),
   ("before-override", .override .before), ("after-override", .override .after)]

/-- The mode a value names. -/
def ofValue (d : Dialect) : Value → Decoded Mode
  | .text s =>
    match choices.lookup s with
    | some m => .ok m
    | none => .error (.unknownVariant s (choices.map (·.1)))
  | v => v.mistyped d "variant identifier"

/-- What the parts of a mode are called as a whole. -/
def what : Mode → String
  | .call .before => "struct variant InsertionRequest::BeforeCall"
  | .call .after => "struct variant InsertionRequest::AfterCall"
  | .override .before => "struct variant InsertionRequest::BeforeOverride"
  | .override .after => "struct variant InsertionRequest::AfterOverride"

/-- The parts of an insertion in a mode. -/
def names : Mode → List String
  | .call _ => ["class", "method", "call", "body", "full_method"]
  | .override _ => ["class", "method", "body"]

/-- The request of a mode whose parts are at hand. -/
def request (d : Dialect) (f : Fields) : Mode → Decoded Request
  | .call side => do
    let body ← f.get? "body" (·.asText d)
    let callee ← f.get? "call" (·.asText d)
    let className ← f.get? "class" (·.asText d)
    let fullMethod ← f.get? "full_method" (·.asText d)
    let method ← f.get? "method" (·.asText d)
    let className ← f.require "class" className
    let method ← f.require "method" method
    let callee ← f.require "call" callee
    let body ← f.require "body" body
    let fullMethod ← f.require "full_method" fullMethod
    pure (.atCall side className method callee body fullMethod)
  | .override side => do
    let body ← f.get? "body" (·.asText d)
    let className ← f.get? "class" (·.asText d)
    let method ← f.get? "method" (·.asText d)
    let className ← f.require "class" className
    let method ← f.require "method" method
    let body ← f.require "body" body
    pure (.overriding side className method body)

end Mode

/-- The insertion that is asked for. -/
def Request.ofValue (d : Dialect) (v : Value) : Decoded Request :=
  match v with
  | .table entries => do
    match entries.lookup "mode" with
    | none => throw (.missingField "mode")
    | some m =>
      let mode ← Mode.ofValue d m
      let f ← (Value.table entries).fields d mode.what mode.names
      mode.request d f
  | .list [] => throw (.missingField "mode")
  | .list (m :: items) => do
    let mode ← Mode.ofValue d m
    let f ← (Value.list items).fields d mode.what mode.names
    let r ← mode.request d f
    f.finish .counted
    pure r
  | v => v.mistyped d "internally tagged enum InsertionRequest"

/-- A manifest. -/
def Manifest.ofValue (d : Dialect) (v : Value) : Decoded Manifest := do
  let f ← v.fields d "struct PlanManifest" ["class", "insertion"]
  let classes ← f.get? "class" (Declaration.listOfValue d)
  let request ← f.get? "insertion" (Request.ofValue d)
  let request ← f.require "insertion" request
  f.finish d.surplus
  pure ⟨classes.getD [], request⟩

end Splice
