/-
  The text of a method: its signature, and the call of the method it overrides.

  A `SignatureWriter ω` may keep a state `ω` of its own, so that a writer that counts its calls is
  a writer like any other.  The writer used unless another is given (`SignatureWriter.standard`)
  keeps none:

      public int size(Key p0, int p1) throws Missing        return super.size(p0, p1);

  * The modifiers an override must not repeat are left out, the others keep their order.
  * Parameter `i` is named `p` followed by `i`, in both texts.
  * The call returns its value unless the return type is exactly `void`.
  * A method without a name has no signature.  The call of it is still a text.

  The two texts are defined on lists of characters (`signatureChars`, `superCallChars`), which is
  where their shape can be reasoned about.
-/
import Splice.Failure
import Splice.Method

namespace Splice

/-- What an override is written with: a signature and a call of the overridden method. -/
structure SignatureWriter (ω : Type) where
  signature : Method → Effect ω String
  superCall : Method → Effect ω String

namespace Method

/-! ## The standard texts, as characters -/

/-- Whether an override must not repeat the modifier. -/
def bound (modifier : String) : Bool := modifier == "abstract" || modifier == "native"

/-- The modifiers an override repeats. -/
def inheritedModifiers (m : Method) : List String := m.modifiers.filter (!bound ·)

/-- The name of the parameter at a place. -/
def parameterName (i : Nat) : List Char := 'p' :: Nat.toDigits 10 i

/-- The pieces with a separator between any two. -/
def separated (sep : List Char) : List (List Char) → List Char
  | [] => []
  | [a] => a
  | a :: b :: r => a ++ sep ++ separated sep (b :: r)

/-- The parameters as a signature lists them: type, space, name. -/
def typedParameters (m : Method) : List (List Char) :=
  m.parameters.mapIdx fun i t => t.toList ++ ' ' :: parameterName i

/-- The parameters as a call lists them: the names. -/
def arguments (m : Method) : List (List Char) :=
  m.parameters.mapIdx fun i _ => parameterName i

/-- What follows the closing parenthesis of a signature. -/
def throwsClause (m : Method) : List Char :=
  match m.exceptions with
  | [] => []
  | es => " throws ".toList ++ separated [',', ' '] (es.map String.toList)

/-- The signature of a method. -/
def signatureChars (m : Method) : List Char :=
  separated [' '] ((m.inheritedModifiers ++ [m.returnType]).map String.toList)
    ++ ' ' :: m.name.toList
    ++ '(' :: separated [',', ' '] m.typedParameters
    ++ ')' :: m.throwsClause

/-- The statement that calls the overridden method. -/
def superCallChars (m : Method) : List Char :=
  (if m.returnType = "void" then [] else "return ".toList)
    ++ "super.".toList ++ m.name.toList
    ++ '(' :: separated [',', ' '] m.arguments
    ++ [')', ';']

/-- The signature, for a method that has a name. -/
def signature (m : Method) : Except Failure String :=
  if m.name = "" then
    .error (.signature ("method declared on " ++ m.declaringClass ++ " has no name"))
  else .ok (String.ofList m.signatureChars)

/-- The call of the overridden method. -/
def superCall (m : Method) : String := String.ofList m.superCallChars

theorem signature_eq_error_iff {m : Method} {e : Failure} :
    m.signature = .error e ↔
      m.name = "" ∧
        e = .signature ("method declared on " ++ m.declaringClass ++ " has no name") := by
  unfold signature
  split
  · rename_i h
    simp only [Except.error.injEq, h, true_and]
    exact eq_comm
  · rename_i h
    simp [h]

end Method

/-! ## Writers -/

/-- The writer of the standard texts. -/
def SignatureWriter.standard : SignatureWriter Unit where
  signature m := .ofAttempt (.ofExcept m.signature)
  superCall m := pure m.superCall

/-- How often a writer was asked for either text. -/
structure WriterCalls where
  signatures : Nat := 0
  superCalls : Nat := 0
deriving DecidableEq, Repr

/-- A writer that gives the same two texts for every method and counts how often it is asked. -/
def SignatureWriter.fixed (signature superCall : String) : SignatureWriter WriterCalls where
  signature _ := ExceptT.mk fun n =>
    pure (.ok signature, { n with signatures := n.signatures + 1 })
  superCall _ := ExceptT.mk fun n =>
    pure (.ok superCall, { n with superCalls := n.superCalls + 1 })

/-! ## At work -/

/-- A method that shows every part of a signature. -/
def Method.sample : Method :=
  (((named "put").returning "int").withParameter "Key").withParameter "int" |>.throwing "E"
    |>.withModifiers ["protected", "abstract", "final"]

example : Method.sample.signatureChars =
    "protected final int put(Key p0, int p1) throws E".toList := by decide

example : Method.sample.superCallChars = "return super.put(p0, p1);".toList := by decide

end Splice
