/-
  JSON strings.

  The quote, the backslash and the control characters below the space are escaped, five of the
  controls by a letter and the others by four hexadecimal digits; every other character stands for
  itself.  The writer is a function on single characters, lifted to texts by `flatMap`.
-/

namespace Splice.Json

/-- A hexadecimal digit in lower case. -/
def hexDigit (n : Nat) : Char := Nat.digitChar (n % 16)

/-- The form of one character inside the quotes. -/
def encodeChar (c : Char) : List Char :=
  if c = '"' then ['\\', '"']
  else if c = '\\' then ['\\', '\\']
  else if c = '\x08' then ['\\', 'b']
  else if c = '\x0c' then ['\\', 'f']
  else if c = '\n' then ['\\', 'n']
  else if c = '\r' then ['\\', 'r']
  else if c = '\t' then ['\\', 't']
  else if c.toNat < 0x20 then ['\\', 'u', '0', '0', hexDigit (c.toNat / 16), hexDigit c.toNat]
  else [c]

/-- A JSON string, as characters. -/
def quotedChars (s : List Char) : List Char := '"' :: s.flatMap encodeChar ++ ['"']

/-- A JSON string. -/
def quoted (s : String) : String := String.ofList (quotedChars s.toList)

example : quotedChars ['a', '"', '\\', '\n', '\x1f', '\x7f']
    = ['"', 'a', '\\', '"', '\\', '\\', '\\', 'n', '\\', 'u', '0', '0', '1', 'f', '\x7f', '"'] := by
  decide

end Splice.Json
