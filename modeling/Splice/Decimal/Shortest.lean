/-
  The shortest decimal that reads back to a given binary number.

  A finite double is `m · 2^q`.  The reals that round to it form an interval around it, closed
  exactly when `m` is even.  For one digit, two digits, and so on, only the two grid neighbours of
  the number can lie in the interval, so the first grid with a hit gives the fewest digits, and of
  two hits the nearer one is taken.  Everything is compared in natural numbers: the number and the
  two bounds are written over one denominator (`Scaled`), and a grid point is a natural number
  times a power of ten.  Powers are written `Nat.pow`, which is the same function whatever else is
  imported.

  Seventeen digits always suffice; the search stops there.

  How the digits are laid out is not decided here but by a `Layout`: from which decimal exponent to
  which the number is written positionally.  Outside of it a bare exponent follows the digits.
-/

namespace Splice.Decimal

/-! ## The number and its rounding interval -/

/-- A positive number `mid / den` with the ends of the interval that rounds to it. -/
structure Scaled where
  lo : Nat
  mid : Nat
  hi : Nat
  den : Nat
  closed : Bool

/-- The magnitude of a finite double, from its bits without the sign. -/
def Scaled.ofBits (bits : Nat) : Scaled :=
  let field := bits / Nat.pow 2 52
  let frac := bits % Nat.pow 2 52
  let m := if field = 0 then frac else frac + Nat.pow 2 52
  -- the value is `m · 2^(e - 1077) · 4`; the factor four makes room for the half-way points
  let e := if field = 0 then 1 else field
  let below := if frac = 0 ∧ 1 < field then 1 else 2
  let up := Nat.pow 2 (e - 1077)
  let den := Nat.pow 2 (1077 - e)
  ⟨(4 * m - below) * up, 4 * m * up, (4 * m + 2) * up, den, m % 2 = 0⟩

/-- Whether the decimal `d · 10^k` lies in the interval. -/
def Scaled.holds (x : Scaled) (d : Nat) (k : Int) : Bool :=
  let p := d * Nat.pow 10 k.toNat * x.den
  let s := Nat.pow 10 (-k).toNat
  if x.closed then x.lo * s ≤ p && p ≤ x.hi * s else x.lo * s < p && p < x.hi * s

/-- The decimal exponent of the leading digit. -/
def Scaled.leading (x : Scaled) : Int :=
  let n := x.mid / x.den
  if 0 < n then ((Nat.toDigits 10 n).length : Int) - 1
  else
    -- the least `s` with `1 ≤ x · 10^s`; a double is at least `10^(-324)`
    -(((List.range 325).find? fun s => x.den ≤ x.mid * Nat.pow 10 s).getD 324 : Nat)

/-! ## The search -/

/-- The number `digits · 10^exponent`. -/
structure Scientific where
  digits : Nat
  exponent : Int
deriving DecidableEq, Repr

/-- The hit among the two neighbours of the number on the grid of `10^k`, the nearer of two. -/
def Scaled.onGrid? (x : Scaled) (k : Int) : Option Scientific :=
  let unit := Nat.pow 10 k.toNat * x.den
  let num := x.mid * Nat.pow 10 (-k).toNat
  let d := num / unit
  match x.holds d k && 0 < d, x.holds (d + 1) k with
  | true, true => some ⟨if 2 * (num % unit) < unit then d else d + 1, k⟩
  | true, false => some ⟨d, k⟩
  | false, true => some ⟨d + 1, k⟩
  | false, false => none

/-- Trailing zeros of the digits move into the exponent. -/
def Scientific.normalize : Nat → Scientific → Scientific
  | 0, d => d
  | n + 1, d =>
    if d.digits % 10 = 0 ∧ 0 < d.digits then normalize n ⟨d.digits / 10, d.exponent + 1⟩ else d

/-- The shortest decimal in the interval, nearest to the number. -/
def Scaled.shortest (x : Scaled) : Scientific :=
  let e := x.leading
  let hit := (List.range 17).findSome? fun (n : Nat) => x.onGrid? (e - n)
  let cut := x.mid * Nat.pow 10 (16 - e).toNat / (x.den * Nat.pow 10 (e - 16).toNat)
  (hit.getD ⟨cut, e - 16⟩).normalize 20

/-! ## Layout -/

/-- Where positional notation begins and ends, by the exponent of the leading digit. -/
structure Layout where
  positionalFrom : Option Int
  positionalBelow : Option Int

/-- Positional whatever the size. -/
def Layout.positional : Layout := ⟨none, none⟩

/-- Positional for leading exponents from -5 up to 15. -/
def Layout.compact : Layout := ⟨some (-5), some 16⟩

/-- The text of a positive decimal; a positional text always has a fractional part. -/
def Scientific.text (l : Layout) (d : Scientific) : List Char :=
  let ds := Nat.toDigits 10 d.digits
  let lead := d.exponent + ds.length - 1
  let plain := l.positionalFrom.all (· ≤ lead) && l.positionalBelow.all (lead < ·)
  if plain then
    if 0 ≤ d.exponent then ds ++ List.replicate d.exponent.toNat '0' ++ ['.', '0']
    else if 0 ≤ lead then ds.take (lead.toNat + 1) ++ '.' :: ds.drop (lead.toNat + 1)
    else '0' :: '.' :: List.replicate (-lead - 1).toNat '0' ++ ds
  else
    let mantissa := if ds.length = 1 then ds else ds.take 1 ++ '.' :: ds.drop 1
    mantissa ++ 'e' :: (toString lead).toList

/-- The text of a double; the sign of zero is kept. -/
def floatText (l : Layout) (x : Float) : String :=
  let bits := x.toBits.toNat
  let magnitude := bits % Nat.pow 2 63
  let sign := if bits = magnitude then [] else ['-']
  if magnitude / Nat.pow 2 52 = 2047 then
    if magnitude % Nat.pow 2 52 = 0 then String.ofList (sign ++ ['i', 'n', 'f']) else "NaN"
  else if magnitude = 0 then String.ofList (sign ++ ['0', '.', '0'])
  else String.ofList (sign ++ (Scaled.ofBits magnitude).shortest.text l)

end Splice.Decimal
