/-
  Reading TOML strings and bare words.

  All readers here take characters and give what they read together with the characters left over,
  or nothing if the text is malformed.  Line ends have been made uniform before (a line end is one
  character).

  A basic string is read by one pass with a small state (`Mode`): in plain text, behind a
  backslash, inside a numbered escape, or behind a backslash that ends its line, where blanks and
  line ends are dropped.  One-line and multi-line strings differ in what closes them and in
  whether a line end may stand in them.
-/

namespace Splice.Toml

/-- A blank inside a line. -/
def isSpace (c : Char) : Bool := c == ' ' || c == '\t'

/-- A character that may stand in strings and comments as it is; a line end is none. -/
def isTextChar (c : Char) : Bool := c == '\t' || (0x20 ≤ c.toNat && c.toNat != 0x7F)

/-- The value of a hexadecimal digit. -/
def hexValue? (c : Char) : Option Nat :=
  if '0' ≤ c ∧ c ≤ '9' then some (c.toNat - '0'.toNat)
  else if 'a' ≤ c ∧ c ≤ 'f' then some (c.toNat - 'a'.toNat + 10)
  else if 'A' ≤ c ∧ c ≤ 'F' then some (c.toNat - 'A'.toNat + 10)
  else none

/-- The character of a code point; surrogates and numbers that are too large have none. -/
def charOf? (n : Nat) : Option Char := if n.isValidChar then some (Char.ofNat n) else none

/-! ## Closing quotes -/

/-- What is left behind three closing quotes, with up to two more quotes that belong to the text. -/
def closing (q : Char) : List Char → Option (List Char × List Char)
  | a :: b :: c :: d :: e :: r =>
    if a = q ∧ b = q ∧ c = q then
      if d = q then if e = q then some ([q, q], r) else some ([q], e :: r)
      else some ([], d :: e :: r)
    else none
  | [a, b, c, d] =>
    if a = q ∧ b = q ∧ c = q then if d = q then some ([q], []) else some ([], [d]) else none
  | [a, b, c] => if a = q ∧ b = q ∧ c = q then some ([], []) else none
  | _ => none

/-! ## Basic strings -/

/-- Where the reader of a basic string stands. -/
inductive Mode
  | plain
  /-- Behind a backslash that ended its line: blanks and line ends are dropped. -/
  | dropping
  | escape
  /-- Behind a backslash and blanks: only a line end may follow. -/
  | lineEnd
  /-- Inside a numbered escape: digits still to come, and their value so far. -/
  | code (left value : Nat)
deriving DecidableEq

/-- The character of a one-letter escape. -/
def letterEscape? (c : Char) : Option Char :=
  [('b', '\x08'), ('t', '\t'), ('n', '\n'), ('f', '\x0c'), ('r', '\r'), ('e', '\x1b'),
   ('"', '"'), ('\\', '\\')].lookup c

/-- The number of digits of a numbered escape. -/
def codeLength? (c : Char) : Option Nat := [('x', 2), ('u', 4), ('U', 8)].lookup c

/-- The rest of a basic string; `acc` is the text read so far, last character first. -/
def basicRest (long : Bool) : Mode → List Char → List Char → Option (List Char × List Char)
  | _, _, [] => none
  | .escape, acc, c :: r =>
    match letterEscape? c, codeLength? c with
    | some d, _ => basicRest long .plain (d :: acc) r
    | none, some n => basicRest long (.code n 0) acc r
    | none, none =>
      if long && isSpace c then basicRest long .lineEnd acc r
      else if long && c == '\n' then basicRest long .dropping acc r
      else none
  | .lineEnd, acc, c :: r =>
    if isSpace c then basicRest long .lineEnd acc r
    else if c = '\n' then basicRest long .dropping acc r
    else none
  | .code n v, acc, c :: r =>
    match hexValue? c with
    | none => none
    | some h =>
      if n ≤ 1 then
        match charOf? (16 * v + h) with
        | none => none
        | some d => basicRest long .plain (d :: acc) r
      else basicRest long (.code (n - 1) (16 * v + h)) acc r
  | mode, acc, c :: r =>
    if mode = .dropping ∧ (isSpace c ∨ c = '\n') then basicRest long .dropping acc r
    else if c = '"' then
      if long then
        match closing '"' (c :: r) with
        | some (quotes, rest) => some (acc.reverse ++ quotes, rest)
        | none => basicRest long .plain (c :: acc) r
      else some (acc.reverse, r)
    else if c = '\\' then basicRest long .escape acc r
    else if isTextChar c || (long && c == '\n') then basicRest long .plain (c :: acc) r
    else none

/-! ## Literal strings -/

/-- The rest of a literal string. -/
def literalRest (long : Bool) : List Char → List Char → Option (List Char × List Char)
  | _, [] => none
  | acc, c :: r =>
    if c = '\'' then
      if long then
        match closing '\'' (c :: r) with
        | some (quotes, rest) => some (acc.reverse ++ quotes, rest)
        | none => literalRest long (c :: acc) r
      else some (acc.reverse, r)
    else if isTextChar c || (long && c == '\n') then literalRest long (c :: acc) r
    else none

/-- A multi-line string drops a line end directly behind its opening quotes. -/
def dropLineEnd : List Char → List Char
  | '\n' :: r => r
  | r => r

/-- A string of any of the four kinds, if the text begins with a quote. -/
def readString? : List Char → Option (Option (String × List Char))
  | '"' :: '"' :: '"' :: r => some (finish (basicRest true .plain [] (dropLineEnd r)))
  | '"' :: r => some (finish (basicRest false .plain [] r))
  | '\'' :: '\'' :: '\'' :: r => some (finish (literalRest true [] (dropLineEnd r)))
  | '\'' :: r => some (finish (literalRest false [] r))
  | _ => none
where
  finish (x : Option (List Char × List Char)) : Option (String × List Char) :=
    x.map fun (s, r) => (String.ofList s, r)

/-! ## Keys -/

/-- A character of a key without quotes. -/
def isBareChar (c : Char) : Bool :=
  ('a' ≤ c && c ≤ 'z') || ('A' ≤ c && c ≤ 'Z') || ('0' ≤ c && c ≤ '9') || c == '_' || c == '-'

/-- One part of a key: bare, or a string in one line. -/
def readKeyPart : List Char → Option (String × List Char)
  | '"' :: r => (basicRest false .plain [] r).map fun (s, r) => (String.ofList s, r)
  | '\'' :: r => (literalRest false [] r).map fun (s, r) => (String.ofList s, r)
  | cs =>
    match cs.span isBareChar with
    | ([], _) => none
    | (word, r) => some (String.ofList word, r)

/-- A key: parts with dots between, blanks around the dots.  The number bounds the parts. -/
def readKey : Nat → List Char → Option (List String × List Char)
  | 0, _ => none
  | n + 1, cs => do
    let (part, r) ← readKeyPart (cs.dropWhile isSpace)
    match r.dropWhile isSpace with
    | '.' :: r => do
      let (parts, r) ← readKey n r
      some (part :: parts, r)
    | r => some ([part], r)

end Splice.Toml
