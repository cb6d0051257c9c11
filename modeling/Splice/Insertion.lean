/-
  A finished insertion: which class, which method, where in it, and the texts.

  An `Insertion μ` holds the class itself; a `Summary` holds only its name and is what is reported
  and recorded.  `Insertion.display` is the one-line display of an insertion, and
  `Insertion.handOff` the line that is traced when an insertion is given to an engine.
-/
import Splice.Target
import Splice.Text.Quoted

namespace Splice

/-- Where the body goes. -/
inductive Point
  /-- Before a call of `callee` in the target method. -/
  | beforeCall (callee : String)
  /-- After a call of `callee` in the target method. -/
  | afterCall (callee : String)
  /-- Before the call of the overridden method. -/
  | beforeSuperCall
  /-- After the call of the overridden method. -/
  | afterSuperCall
deriving DecidableEq, Repr

namespace Point

/-- Whether the body comes before what it is placed by. -/
def isBefore : Point → Bool
  | .beforeCall _ | .beforeSuperCall => true
  | .afterCall _ | .afterSuperCall => false

/-- The kind of a point, as a summary names it. -/
def kind : Point → String
  | .beforeCall _ => "before-call"
  | .afterCall _ => "after-call"
  | .beforeSuperCall => "before-super-call"
  | .afterSuperCall => "after-super-call"

/-- The method whose call the body is placed by. -/
def callee? : Point → Option String
  | .beforeCall c | .afterCall c => some c
  | .beforeSuperCall | .afterSuperCall => none

/-- The one-line display of a point. -/
def display : Point → String
  | .beforeCall c => "BeforeCall(" ++ Text.Quoted.encode c ++ ")"
  | .afterCall c => "AfterCall(" ++ Text.Quoted.encode c ++ ")"
  | .beforeSuperCall => "BeforeSuperCall"
  | .afterSuperCall => "AfterSuperCall"

end Point

/-- A finished insertion. -/
structure Insertion (μ : Type) where
  target : μ
  method : String
  point : Point
  body : String
  fullMethod : String
deriving Repr

/-- What is reported of an insertion. -/
structure Summary where
  className : String
  method : String
  body : String
  fullMethod : String
  point : Point
deriving DecidableEq, Repr

namespace Insertion

variable {μ : Type} [Target μ]

/-- The report of an insertion. -/
def summary (i : Insertion μ) : Summary :=
  ⟨Target.name i.target, i.method, i.body, i.fullMethod, i.point⟩

/-- The method the body goes before, for a point before a call. -/
def before? (i : Insertion μ) : Option String :=
  match i.point with
  | .beforeCall c => some c
  | _ => none

/-- The method the body goes after, for a point after a call. -/
def after? (i : Insertion μ) : Option String :=
  match i.point with
  | .afterCall c => some c
  | _ => none

/-- The one-line display of an insertion. -/
def display (i : Insertion μ) : String :=
  "InsertionSpec \x7b module: " ++ Text.Quoted.encode (Target.name i.target)
    ++ ", target_method_name: " ++ Text.Quoted.encode i.method
    ++ ", insertion_point: " ++ i.point.display
    ++ ", body: " ++ Text.Quoted.encode i.body
    ++ ", full_method: " ++ Text.Quoted.encode i.fullMethod ++ " \x7d"

/-- The line that is traced when an insertion is handed to an engine. -/
def handOff (i : Insertion μ) : String :=
  "apply_insertion\x7bmodule=" ++ Text.Quoted.encode (Target.name i.target)
    ++ " method=" ++ Text.Quoted.encode i.method
    ++ "\x7d: Applying insertion point=" ++ i.point.display

end Insertion

end Splice
