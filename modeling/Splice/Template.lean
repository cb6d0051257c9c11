/-
  Templates: method texts with a placeholder for the body.

  A template is filled by replacing every occurrence of the placeholder, leftmost first.  A
  template in which the placeholder does not occur — and every template, if the placeholder is
  empty — stays as it is and the body is dropped, which is put on record.

  The template of an override is written around the call of the overridden method, with the
  placeholder before or after it.
-/
import Splice.Journal
import Splice.Text.Quoted
import Splice.Text.Substitute

namespace Splice.Template

/-- The placeholder used unless a configuration names another. -/
def defaultTag : String := "BODY"

/-- Whether a template has a place for the body. -/
def holds (template tag : String) : Bool :=
  !tag.isEmpty && Text.occurs tag.toList template.toList

/-- The template with the body put in. -/
def filled (template tag body : String) : String :=
  if holds template tag then
    String.ofList (Text.replaceAll tag.toList body.toList template.toList)
  else template

/-- Put the body into the template. -/
def fill (template tag body : String) : Logged String := do
  unless holds template tag do
    Logged.write .warn
      ("Full method doesn't contain body tag (body tag=" ++ Text.Quoted.encode tag ++ ")")
  pure (filled template tag body)

@[simp] theorem value_fill (template tag body : String) :
    (fill template tag body).value = filled template tag body := by
  unfold fill
  cases holds template tag <;> rfl

theorem records_fill (template tag body : String) :
    (fill template tag body).records =
      if holds template tag then []
      else [⟨.warn,
        "Full method doesn't contain body tag (body tag=" ++ Text.Quoted.encode tag ++ ")"⟩] := by
  unfold fill
  cases holds template tag <;> rfl

/-! ## Templates of overrides -/

/-- Where the body of an override goes. -/
inductive Side
  | before
  | after
deriving DecidableEq, Repr

/-- The template of an override, as characters. -/
def overrideChars (signature superCall tag : List Char) : Side → List Char
  | .before => signature ++ " \x7b ".toList ++ tag ++ ' ' :: superCall ++ " \x7d".toList
  | .after => signature ++ " \x7b ".toList ++ superCall ++ ' ' :: tag ++ " \x7d".toList

/-- The template of an override. -/
def override (signature superCall tag : String) (side : Side) : String :=
  String.ofList (overrideChars signature.toList superCall.toList tag.toList side)

/-! ## At work -/

example : (overrideChars "int f()".toList "super.f();".toList "@".toList .before)
    = ['i', 'n', 't', ' ', 'f', '(', ')', ' ', '{', ' ', '@', ' ', 's', 'u', 'p', 'e', 'r', '.',
       'f', '(', ')', ';', ' ', '}'] := by decide

end Splice.Template
