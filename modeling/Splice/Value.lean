/-
  Untyped data, as a configuration or a manifest brings it, and how it fails to be typed data.

  `Value` is what both surface formats read to.  A typed reading takes a `Value` apart and either
  gives the typed data or ONE `ShapeError`, the first fault met.  The faults are causes; their
  wording stands in `ShapeError.message` alone.

  The two surface formats differ in three small ways that a fault can show, which is what
  `Dialect` holds: how a floating point number is written, what becomes of surplus elements where
  a structure is given as a bare sequence, and whether a choice may be given as a table.

  Layers:
  * `Value`, `ShapeError`           — the data and the faults;
  * `Value.asText`, `Value.asList`  — the leaves of a typed reading;
  * `Fields`                        — the named parts of a structure, given by name or by place.
-/
import Splice.Decimal.Shortest
import Splice.Text.Quoted

namespace Splice

/-! ## Data -/

/-- Untyped data; the entries of a table carry pairwise distinct names. -/
inductive Value
  | null
  | bool (b : Bool)
  | int (i : Int)
  | float (x : Float)
  | text (s : String)
  | list (items : List Value)
  | table (entries : List (String × Value))
deriving Inhabited

/-- What becomes of the elements a structure has no place for. -/
inductive Surplus
  | ignored
  | refused
  | counted
deriving DecidableEq

/-- Where the surface formats differ. -/
structure Dialect where
  floats : Decimal.Layout
  surplus : Surplus
  /-- A choice among names may also be given as a table with one entry. -/
  choiceTables : Bool

/-- The dialect of a JSON value. -/
def Dialect.json : Dialect := ⟨.compact, .refused, false⟩

/-- The dialect of a TOML document. -/
def Dialect.toml : Dialect := ⟨.positional, .ignored, true⟩

/-! ## Faults -/

/-- Why a value is not the typed data that was wanted. -/
inductive ShapeError
  | missingField (name : String)
  | invalidType (got wanted : String)
  | invalidLength (length : Nat) (wanted : String)
  | unknownVariant (name : String) (known : List String)
  | wanted (what : String)
deriving DecidableEq, Repr

/-- A name between backquotes. -/
private def ticked (s : String) : String := "`" ++ s ++ "`"

/-- The wording of a fault. -/
def ShapeError.message : ShapeError → String
  | .missingField name => "missing field " ++ ticked name
  | .invalidType got want => "invalid type: " ++ got ++ ", expected " ++ want
  | .invalidLength n want => "invalid length " ++ toString n ++ ", expected " ++ want
  | .unknownVariant name known =>
    "unknown variant " ++ ticked name ++ ", " ++
      match known with
      | [] => "there are no variants"
      | [a] => "expected " ++ ticked a
      | [a, b] => "expected " ++ ticked a ++ " or " ++ ticked b
      | _ => "expected one of " ++ ", ".intercalate (known.map ticked)
  | .wanted what => what

/-- The result of a typed reading. -/
abbrev Decoded (α : Type) := Except ShapeError α

/-- What a value is, in the words of a fault.  Integers beyond 64 bits say so. -/
def Value.describe (d : Dialect) : Value → String
  | .null => "null"
  | .bool b => "boolean " ++ ticked (if b then "true" else "false")
  | .int i =>
    "integer " ++ ticked (toString i) ++
      (if -(Int.pow 2 63) ≤ i ∧ i < Int.pow 2 64 then "" else " as i128")
  | .float x => "floating point " ++ ticked (Decimal.floatText d.floats x)
  | .text s => "string " ++ Text.Quoted.encode s
  | .list _ => "sequence"
  | .table _ => "map"

/-! ## Leaves of a typed reading -/

namespace Value

/-- The fault of a value that should have been something else. -/
def mistyped {α : Type} (d : Dialect) (want : String) (v : Value) : Decoded α :=
  .error (.invalidType (v.describe d) want)

/-- The value as a text. -/
def asText (d : Dialect) : Value → Decoded String
  | .text s => .ok s
  | v => v.mistyped d "a string"

/-- The value as a text that may be null. -/
def asTextOrNull (d : Dialect) : Value → Decoded (Option String)
  | .null => .ok none
  | v => some <$> v.asText d

/-- The value as a list, each item read by `item`. -/
def asList {α : Type} (d : Dialect) (item : Value → Decoded α) : Value → Decoded (List α)
  | .list vs => vs.mapM item
  | v => v.mistyped d "a sequence"

end Value

/-! ## The parts of a structure -/

/-- The parts of a structure: by name, or by place when the value is a bare sequence. -/
structure Fields where
  what : String
  /-- The parts in the order they are declared in. -/
  names : List String
  entries : List (String × Value)
  /-- The number of elements, when the value is a sequence. -/
  given : Option Nat

/-- The parts of a value that should be the structure `what`. -/
def Value.fields (d : Dialect) (what : String) (names : List String) : Value → Decoded Fields
  | .table entries => .ok ⟨what, names, entries, none⟩
  | .list items => .ok ⟨what, names, names.zip items, some items.length⟩
  | v => v.mistyped d what

namespace Fields

variable {α : Type}

/-- A part, if it is there; unknown parts are never looked at. -/
def get? (f : Fields) (name : String) (read : Value → Decoded α) : Decoded (Option α) :=
  match f.entries.lookup name with
  | none => .ok none
  | some v => some <$> read v

/-- A part that has no default. -/
def require (f : Fields) (name : String) : Option α → Decoded α
  | some a => .ok a
  | none =>
    match f.given with
    | none => .error (.missingField name)
    | some _ =>
      .error (.invalidLength (f.names.idxOf name)
        (f.what ++ " with " ++ toString f.names.length ++
          (if f.names.length = 1 then " element" else " elements")))

/-- The check on surplus elements, made when all parts have been read. -/
def finish (f : Fields) (surplus : Surplus) : Decoded Unit :=
  match f.given with
  | none => .ok ()
  | some n =>
    let k := f.names.length
    if n ≤ k then .ok ()
    else match surplus with
      | .ignored => .ok ()
      | .refused => .error (.invalidLength n "fewer elements in array")
      | .counted =>
        .error (.invalidLength n
          (toString k ++ (if k = 1 then " element" else " elements") ++ " in sequence"))

end Fields

/-- A choice among names; a dialect with choice tables also takes the name as the only key of a
    table whose value is empty. -/
def Value.asChoice {α : Type} (d : Dialect) (choices : List (String × α)) :
    Value → Decoded α
  | .text s => pick s
  | .table entries =>
    if d.choiceTables then
      match entries with
      | [] => .error (.wanted "wanted exactly 1 element, found 0 elements")
      | [(name, v)] => do
        let a ← pick name
        match v with
        | .list [] | .table [] => .ok a
        | .list _ => .error (.wanted "expected empty array")
        | .table _ => .error (.wanted "expected empty table")
        | .text _ => .error (.wanted "expected table, found string")
        | .int _ => .error (.wanted "expected table, found integer")
        | .float _ => .error (.wanted "expected table, found float")
        | .bool _ | .null => .error (.wanted "expected table, found boolean")
      | _ => .error (.wanted "wanted exactly 1 element, more than 1 element")
    else .error (.wanted "wanted string or table")
  | _ => .error (.wanted "wanted string or table")
where
  pick (s : String) : Decoded α :=
    match choices.lookup s with
    | some a => .ok a
    | none => .error (.unknownVariant s (choices.map (·.1)))

end Splice
