/-
  Reading TOML values that are written as one word: booleans, numbers and points in time.

  The word is cut out first — the longest run of characters such a value can be written with — and
  must then be such a value as a whole.

  * Integers: a sign, then decimal digits without a leading zero; or hexadecimal, octal or binary
    digits behind `0x`, `0o`, `0b` and no sign.
  * Floating point numbers: digits, then a fraction, an exponent or both; `inf` and `nan`.
  * Between two digits one underscore may stand.
  * Points in time are checked for their form and their ranges, and are kept as text.
-/
import Splice.Value

namespace Splice.Toml

/-! ## Digits -/

/-- The value of a digit in a base. -/
def digitValue? (base : Nat) (c : Char) : Option Nat :=
  let v :=
    if '0' ≤ c ∧ c ≤ '9' then c.toNat - '0'.toNat
    else if 'a' ≤ c ∧ c ≤ 'f' then c.toNat - 'a'.toNat + 10
    else if 'A' ≤ c ∧ c ≤ 'F' then c.toNat - 'A'.toNat + 10
    else base
  if v < base then some v else none

/-- The digits of a run in which one underscore may stand between two digits. -/
def digits? (base : Nat) : List Char → Option (List Nat)
  | [] => none
  | [c] => (digitValue? base c).map fun v => [v]
  | c :: '_' :: r => do
    let v ← digitValue? base c
    let vs ← digits? base r
    some (v :: vs)
  | c :: r => do
    let v ← digitValue? base c
    let vs ← digits? base r
    some (v :: vs)

/-- The number written by digits. -/
def ofDigits (base : Nat) (ds : List Nat) : Nat := ds.foldl (fun n d => n * base + d) 0

/-- Decimal digits without a leading zero. -/
def plainDigits? (cs : List Char) : Option (List Nat) := do
  let ds ← digits? 10 cs
  match ds with
  | 0 :: _ :: _ => none
  | ds => some ds

/-- A character of a run of decimal digits. -/
def isDigitOrScore (c : Char) : Bool := ('0' ≤ c && c ≤ '9') || c == '_'

/-! ## Numbers -/

/-- The sign of a number and what follows it. -/
def splitSign : List Char → Bool × List Char
  | '-' :: r => (true, r)
  | '+' :: r => (false, r)
  | r => (false, r)

/-- The double nearest to `m · 10^e`; exponents far beyond its range are cut first. -/
def floatOf (negative : Bool) (m : Nat) (e : Int) : Float :=
  let n : Int := (Nat.toDigits 10 m).length
  let x :=
    if m = 0 ∨ e + n < -400 then Float.ofScientific 0 false 0
    else if 400 < e + n then Float.ofScientific 1 false 400
    else Float.ofScientific m (e < 0) e.natAbs
  if negative then -x else x

/-- The exponent of a floating point number; the whole text must be one. -/
def exponent? : List Char → Option Int
  | [] => some 0
  | c :: r =>
    if c = 'e' ∨ c = 'E' then
      let (negative, ds) := splitSign r
      (digits? 10 ds).map fun ds =>
        let n : Int := ofDigits 10 ds
        if negative then -n else n
    else none

/-- A decimal number; a fraction or an exponent makes it a floating point number. -/
def decimal? (negative : Bool) (cs : List Char) : Option Value := do
  let (whole, r) := cs.span isDigitOrScore
  let ds ← plainDigits? whole
  match r with
  | [] =>
    let n : Int := ofDigits 10 ds
    let n := if negative then -n else n
    if -(Int.pow 2 127) ≤ n ∧ n < Int.pow 2 127 then some (.int n) else none
  | '.' :: r =>
    let (part, r) := r.span isDigitOrScore
    let fs ← digits? 10 part
    let e ← exponent? r
    finite (floatOf negative (ofDigits 10 (ds ++ fs)) (e - fs.length))
  | r =>
    let e ← exponent? r
    finite (floatOf negative (ofDigits 10 ds) e)
where
  /-- A number too large for a double is refused. -/
  finite (x : Float) : Option Value := if x.isInf then none else some (.float x)

/-- An integer in another base. -/
def based? (base : Nat) (cs : List Char) : Option Value :=
  (digits? base cs).bind fun ds =>
    let n : Int := ofDigits base ds
    if n < Int.pow 2 127 then some (.int n) else none

/-- A number. -/
def number? (cs : List Char) : Option Value :=
  match cs with
  | '0' :: 'x' :: r => based? 16 r
  | '0' :: 'o' :: r => based? 8 r
  | '0' :: 'b' :: r => based? 2 r
  | _ =>
    let (negative, r) := splitSign cs
    if r = ['i', 'n', 'f'] then some (.float (if negative then -(1.0 / 0.0) else 1.0 / 0.0))
    else if r = ['n', 'a', 'n'] then some (.float (0.0 / 0.0))
    else decimal? negative r

/-! ## Points in time -/

/-- A number of exactly `n` decimal digits. -/
def fixed? : Nat → Nat → List Char → Option (Nat × List Char)
  | 0, v, r => some (v, r)
  | n + 1, v, c :: r => (digitValue? 10 c).bind fun d => fixed? n (10 * v + d) r
  | _ + 1, _, [] => none

/-- The number of days of a month. -/
def daysIn (year month : Nat) : Nat :=
  if month = 2 then
    if year % 4 = 0 ∧ (year % 100 ≠ 0 ∨ year % 400 = 0) then 29 else 28
  else if month = 4 ∨ month = 6 ∨ month = 9 ∨ month = 11 then 30 else 31

/-- A date, and what follows it. -/
def date? (cs : List Char) : Option (List Char) := do
  let (y, r) ← fixed? 4 0 cs
  let '-' :: r := r | none
  let (m, r) ← fixed? 2 0 r
  let '-' :: r := r | none
  let (d, r) ← fixed? 2 0 r
  if 1 ≤ m ∧ m ≤ 12 ∧ 1 ≤ d ∧ d ≤ daysIn y m then some r else none

/-- A time of day, and what follows it; the seconds may be left out. -/
def time? (cs : List Char) : Option (List Char) := do
  let (h, r) ← fixed? 2 0 cs
  let ':' :: r := r | none
  let (m, r) ← fixed? 2 0 r
  if ¬ (h ≤ 23 ∧ m ≤ 59) then none
  else match r with
    | ':' :: r => do
      let (s, r) ← fixed? 2 0 r
      if 60 < s then none
      else match r with
        | '.' :: r =>
          match r.span fun c => '0' ≤ c && c ≤ '9' with
          | ([], _) => none
          | (_, r) => some r
        | r => some r
    | r => some r

/-- The distance of a local time from universal time; the whole text must be one, or empty. -/
def isOffset : List Char → Bool
  | [] | ['Z'] | ['z'] => true
  | c :: r =>
    (c == '+' || c == '-') &&
      match fixed? 2 0 r with
      | some (h, ':' :: r) =>
        match fixed? 2 0 r with
        | some (m, []) => h ≤ 23 && m ≤ 59
        | _ => false
      | _ => false

/-- Whether a text is a point in time. -/
def isMoment (cs : List Char) : Bool :=
  match date? cs with
  | some [] => true
  | some (c :: r) => (c == 'T' || c == 't' || c == ' ') && (time? r).any isOffset
  | none => time? cs == some []

/-! ## Words -/

/-- A character of a value that is written as one word. -/
def isWordChar (c : Char) : Bool :=
  ('a' ≤ c && c ≤ 'z') || ('A' ≤ c && c ≤ 'Z') || ('0' ≤ c && c ≤ '9')
    || c == '_' || c == '-' || c == '+' || c == '.' || c == ':'

/-- The value of a word. -/
def word? (cs : List Char) : Option Value :=
  if cs = ['t', 'r', 'u', 'e'] then some (.bool true)
  else if cs = ['f', 'a', 'l', 's', 'e'] then some (.bool false)
  else if isMoment cs then some (.table [("datetime", .text (String.ofList cs))])
  else number? cs

/-- A value written as one word; a date and a time may have one blank between them. -/
def readWord (cs : List Char) : Option (Value × List Char) :=
  let (word, r) := cs.span isWordChar
  match r with
  | ' ' :: c :: r' =>
    if '0' ≤ c ∧ c ≤ '9' ∧ date? word = some [] then
      let (more, r) := (c :: r').span isWordChar
      (word? (word ++ ' ' :: more)).map fun v => (v, r)
    else (word? word).map fun v => (v, r)
  | r => (word? word).map fun v => (v, r)

end Splice.Toml
