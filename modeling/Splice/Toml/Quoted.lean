/-
  TOML strings, in the form that needs the least escaping.

  A text is looked at once (`Traits.of`): does it hold a line end, a backslash, a control character
  other than tab and line end, and what are its longest runs of double and of single quotes.  The
  form follows from that alone (`Form.of`): a basic string if nothing in it needs an escape, else a
  literal string if that can hold it, else the multi-line forms in the same order, and a basic
  string with escapes if nothing else will do.

  * A multi-line form starts with a line end of its own exactly if the text holds one.
  * Literal forms are the text itself.
  * A basic form escapes what it must; a double quote only where it would make a run of unescaped
    quotes longer than the form allows (none in one line, two in several).
-/

namespace Splice.Toml

/-! ## What decides the form -/

/-- The length of the longest run of `q`, when `n` of them come directly before the text. -/
def longestRun (q : Char) : Nat → List Char → Nat
  | n, [] => n
  | n, c :: s => if c = q then longestRun q (n + 1) s else max n (longestRun q 0 s)

/-- A control character that no literal form can hold. -/
def isHardControl (c : Char) : Bool :=
  (c.toNat < 0x20 && c != '\t' && c != '\n') || c.toNat == 0x7F

/-- What decides the form of a text. -/
structure Traits where
  control : Bool
  backslash : Bool
  lineEnd : Bool
  doubleRun : Nat
  singleRun : Nat
deriving DecidableEq, Repr

/-- The traits of a text. -/
def Traits.of (s : List Char) : Traits where
  control := s.any isHardControl
  backslash := s.any (· == '\\')
  lineEnd := s.any (· == '\n')
  doubleRun := longestRun '"' 0 s
  singleRun := longestRun '\'' 0 s

/-- The four forms of a string. -/
inductive Form
  | basic
  | literal
  | longBasic
  | longLiteral
deriving DecidableEq, Repr

/-- The form for a text with these traits. -/
def Form.of (t : Traits) : Form :=
  if !t.control && !t.backslash && t.doubleRun == 0 && !t.lineEnd then .basic
  else if !t.control && t.singleRun == 0 && !t.lineEnd then .literal
  else if !t.control && !t.backslash && t.doubleRun ≤ 2 then .longBasic
  else if !t.control && t.singleRun ≤ 2 then .longLiteral
  else if t.lineEnd then .longBasic
  else .basic

/-! ## The forms -/

/-- A hexadecimal digit in upper case. -/
def upperHexDigit (n : Nat) : Char := (Nat.digitChar (n % 16)).toUpper

/-- The form of one character other than the double quote inside a basic string. -/
def escapeChar (long : Bool) (c : Char) : List Char :=
  if c = '\\' then ['\\', '\\']
  else if c = '\x08' then ['\\', 'b']
  else if c = '\t' then ['\\', 't']
  else if c = '\n' then if long then ['\n'] else ['\\', 'n']
  else if c = '\x0c' then ['\\', 'f']
  else if c = '\r' then ['\\', 'r']
  else if c.toNat < 0x20 || c.toNat = 0x7F then
    ['\\', 'u', '0', '0', upperHexDigit (c.toNat / 16), upperHexDigit c.toNat]
  else [c]

/-- The inside of a basic string; the number counts the unescaped quotes directly before. -/
def basicChars (long : Bool) : Nat → List Char → List Char
  | _, [] => []
  | n, c :: s =>
    if c = '"' then
      if n < (if long then 2 else 0) then '"' :: basicChars long (n + 1) s
      else '\\' :: '"' :: basicChars long 0 s
    else escapeChar long c ++ basicChars long 0 s

/-- A TOML string, as characters. -/
def quotedChars (s : List Char) : List Char :=
  let t := Traits.of s
  let opening := if t.lineEnd then ['\n'] else []
  match Form.of t with
  | .basic => '"' :: basicChars false 0 s ++ ['"']
  | .literal => '\'' :: s ++ ['\'']
  | .longBasic => ['"', '"', '"'] ++ opening ++ basicChars true 0 s ++ ['"', '"', '"']
  | .longLiteral => ['\'', '\'', '\''] ++ opening ++ s ++ ['\'', '\'', '\'']

/-- A TOML string. -/
def quoted (s : String) : String := String.ofList (quotedChars s.toList)

example : quotedChars "it's".toList = "\"it's\"".toList := by decide

example : quotedChars "a\"b".toList = "'a\"b'".toList := by decide

example : quotedChars "\x01\"".toList = "\"\\u0001\\\"\"".toList := by decide

end Splice.Toml
