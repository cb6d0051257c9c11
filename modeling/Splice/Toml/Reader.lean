/-
  Reading a TOML document.

  Three layers, each on the one below:
  * lines and gaps — blanks, comments, line ends;
  * values — strings, words, arrays, inline tables; the last two may run over several lines and
    end in a comma;
  * statements — table headers, array-of-table headers, assignments, each on a line of its own,
    put together by `Toml.Table`.

  The text is malformed or it is a document; why it is malformed is not said.  The recursive
  readers take a bound, which `read?` sets to more than any reading of the text can use: every
  second step passes at least one character.
-/
import Splice.Failure
import Splice.Toml.Scalar
import Splice.Toml.Text
import Splice.Toml.Tree

namespace Splice.Toml

/-! ## Lines and gaps -/

/-- Make line ends one character; a carriage return anywhere else is malformed. -/
def uniformLines : List Char → Option (List Char)
  | [] => some []
  | '\r' :: '\n' :: r => (uniformLines r).map ('\n' :: ·)
  | c :: r => if c = '\r' then none else (uniformLines r).map (c :: ·)

/-- What is left behind the end of the line, if only blanks and a comment come before it. -/
def endLine (cs : List Char) : Option (List Char) :=
  match cs.dropWhile isSpace with
  | [] => some []
  | '\n' :: r => some r
  | '#' :: r =>
    match r.dropWhile isTextChar with
    | [] => some []
    | '\n' :: r => some r
    | _ => none
  | _ => none

/-- What is left behind blanks, line ends and comments. -/
def gap (inComment : Bool) : List Char → Option (List Char)
  | [] => some []
  | c :: r =>
    if c = '\n' then gap false r
    else if inComment then if isTextChar c then gap true r else none
    else if isSpace c then gap false r
    else if c = '#' then gap true r
    else some (c :: r)

/-! ## Values -/

mutual

/-- A value. -/
def readValue : Nat → List Char → Option (Value × List Char)
  | 0, _ => none
  | n + 1, cs =>
    match readString? cs with
    | some found => found.map fun (s, r) => (.text s, r)
    | none =>
      match cs with
      | '[' :: r => (readItems n r).map fun (vs, r) => (.list vs, r)
      | '{' :: r => (readInline n r []).map fun (t, r) => (t.value, r)
      | cs => readWord cs

/-- The rest of an array. -/
def readItems : Nat → List Char → Option (List Value × List Char)
  | 0, _ => none
  | n + 1, cs => do
    match ← gap false cs with
    | ']' :: r => some ([], r)
    | cs =>
      let (v, r) ← readValue n cs
      match ← gap false r with
      | ',' :: r => do
        let (vs, r) ← readItems n r
        some (v :: vs, r)
      | ']' :: r => some ([v], r)
      | _ => none

/-- The rest of an inline table, after what has been said of it. -/
def readInline : Nat → List Char → Table → Option (Table × List Char)
  | 0, _, _ => none
  | n + 1, cs, t => do
    match ← gap false cs with
    | '}' :: r => some (t, r)
    | cs =>
      let (key, r) ← readKey n cs
      let '=' :: r := r | none
      let (v, r) ← readValue n (r.dropWhile isSpace)
      let t ← t.assign key v
      match ← gap false r with
      | ',' :: r => readInline n r t
      | '}' :: r => some (t, r)
      | _ => none

end

/-! ## Statements -/

/-- A document so far: what has been said, and the header under which the next line stands. -/
structure Document where
  table : Table := []
  header : List String := []

/-- The lines of a document. -/
def readLines : Nat → List Char → Document → Option Document
  | 0, _, _ => none
  | n + 1, cs, d =>
    match cs.dropWhile isSpace with
    | [] => some d
    | '\n' :: r => readLines n r d
    | '#' :: r => do
      let r ← endLine ('#' :: r)
      readLines n r d
    | '[' :: '[' :: r => do
      let (key, r) ← readKey n r
      let ']' :: ']' :: r := r | none
      let r ← endLine r
      let t ← d.table.openElement key
      readLines n r ⟨t, key⟩
    | '[' :: r => do
      let (key, r) ← readKey n r
      let ']' :: r := r | none
      let r ← endLine r
      let t ← d.table.openTable key
      readLines n r ⟨t, key⟩
    | cs => do
      let (key, r) ← readKey n cs
      let '=' :: r := r | none
      let (v, r) ← readValue (2 * n) (r.dropWhile isSpace)
      let r ← endLine r
      let t ← d.table.assignUnder d.header key v
      readLines n r { d with table := t }

/-- A byte order mark at the beginning of a text is none of its characters. -/
def withoutMark : List Char → List Char
  | '\ufeff' :: r => r
  | r => r

/-- The value of a document, or nothing if the text is none. -/
def read? (text : String) : Option Value := do
  let cs ← uniformLines (withoutMark text.toList)
  let d ← readLines (cs.length + 2) cs {}
  some d.table.value

/-- The document of a text, read further by `shape`. -/
def decode {α : Type} (shape : Value → Decoded α) (text : String) : Except DocumentError α :=
  match read? text with
  | none => .error .malformed
  | some v =>
    match shape v with
    | .ok a => .ok a
    | .error e => .error (.misshapen e)

end Splice.Toml
