/-
  The quoted display of a text, as it stands in messages and in the display of an insertion.

  A text is put between double quotes.  The quote and the backslash are escaped, five control
  characters have short escapes, and every other character that a display does not show
  (`isPrintable`) is written as its code point, `\u{…}`, in lower-case hexadecimal.  A single quote
  stays as it is.

  The writer is a function on single characters, lifted to texts by `flatMap`.
-/
import Splice.Text.Printable

namespace Splice.Text.Quoted

/-- The display of one character inside the quotes. -/
def encodeChar (c : Char) : List Char :=
  if c = '"' then ['\\', '"']
  else if c = '\\' then ['\\', '\\']
  else if c = '\n' then ['\\', 'n']
  else if c = '\r' then ['\\', 'r']
  else if c = '\t' then ['\\', 't']
  else if c = '\x00' then ['\\', '0']
  else if isPrintable c then [c]
  else ['\\', 'u', '{'] ++ Nat.toDigits 16 c.toNat ++ ['}']

/-- The quoted display of a text. -/
def encode (s : String) : String :=
  String.ofList ('"' :: s.toList.flatMap encodeChar ++ ['"'])

/-! ## At work -/

example : (encode "a\"b'\\\n").toList = "\"a\\\"b'\\\\\\n\"".toList := by decide +kernel

example : (encode "\u200b").toList = ['"', '\\', 'u', '{', '2', '0', '0', 'b', '}', '"'] := by
  decide +kernel

end Splice.Text.Quoted
