/-
  Blank characters: the twenty-five characters with the Unicode property White_Space.

  A configured body tag that consists of nothing else is as good as missing.  Core's
  `Char.isWhitespace` knows four of them.
-/

namespace Splice.Text

/-- The characters with the property White_Space, as closed ranges of code points. -/
def blankRanges : List (Nat × Nat) :=
  [(0x09, 0x0D), (0x20, 0x20), (0x85, 0x85), (0xA0, 0xA0), (0x1680, 0x1680), (0x2000, 0x200A),
   (0x2028, 0x2029), (0x202F, 0x202F), (0x205F, 0x205F), (0x3000, 0x3000)]

/-- Whether the character is white space. -/
def isBlank (c : Char) : Bool :=
  blankRanges.any fun (lo, hi) => lo ≤ c.toNat && c.toNat ≤ hi

/-- Whether a text holds white space only; the empty text does. -/
def allBlank (s : String) : Bool := s.toList.all isBlank

example : (blankRanges.map fun (lo, hi) => hi + 1 - lo).sum = 25 := by decide

example : isBlank '\u3000' = true ∧ isBlank '\u200b' = false := by decide

end Splice.Text
