/-
  Replacing a placeholder in a text, leftmost first and without overlap.

  Texts are lists of characters here: every fact about where one text stands inside another is
  then a fact about lists, and `String` callers go through `String.toList` and `String.ofList`.

  * `occurs p s`      — does `p` stand somewhere in `s`;
  * `replaceAll p b s` — `s` with each leftmost, non-overlapping `p` replaced by `b`.

  The replacement is ONE pass over `s`: the scan carries the number of characters of a match that
  are still to be passed, so the text it puts in is never looked at again, and the recursion is
  on the list itself.  `replaceFrom_eq_drop` says that the count is nothing but a delayed `drop`,
  which gives the two readable equations `replaceAll_match` and `replaceAll_skip`.
-/

namespace Splice.Text

/-! ## Occurrence -/

/-- Whether `p` stands somewhere in the text. -/
def occurs (p : List Char) : List Char → Bool
  | [] => p.isEmpty
  | c :: s => p.isPrefixOf (c :: s) || occurs p s

theorem occurs_iff {p s : List Char} : occurs p s = true ↔ p <:+: s := by
  induction s with
  | nil => simp [occurs]
  | cons c s ih => simp [occurs, ih, List.infix_cons_iff]

/-! ## Replacement -/

/-- The scan: the number says how many characters of the last match are still to be passed. -/
def replaceFrom (p b : List Char) : Nat → List Char → List Char
  | _, [] => []
  | n + 1, _ :: s => replaceFrom p b n s
  | 0, c :: s =>
    if p.isPrefixOf (c :: s) then b ++ replaceFrom p b (p.length - 1) s
    else c :: replaceFrom p b 0 s

/-- The text with every leftmost, non-overlapping `p` replaced by `b`. -/
def replaceAll (p b s : List Char) : List Char := replaceFrom p b 0 s

/-- Passing over `n` characters and then scanning is scanning what is left after them. -/
theorem replaceFrom_eq_drop (p b : List Char) (n : Nat) (s : List Char) :
    replaceFrom p b n s = replaceAll p b (s.drop n) := by
  induction s generalizing n with
  | nil => cases n <;> simp [replaceAll, replaceFrom]
  | cons c s ih => cases n with
    | zero => rfl
    | succ n => simpa [replaceFrom] using ih n

theorem replaceAll_nil (p b : List Char) : replaceAll p b [] = [] := rfl

/-- At a match the body is put in and the scan goes on behind the match. -/
theorem replaceAll_match {p : List Char} (b rest : List Char) (hp : p ≠ []) :
    replaceAll p b (p ++ rest) = b ++ replaceAll p b rest := by
  cases p with
  | nil => exact absurd rfl hp
  | cons d p =>
    have h : (d :: p).isPrefixOf (d :: (p ++ rest)) = true := by simp
    rw [List.cons_append, replaceAll, replaceFrom, if_pos h, replaceFrom_eq_drop]
    simp

/-- Where no match starts one character is kept. -/
theorem replaceAll_skip {p : List Char} {c : Char} {s : List Char} (b : List Char)
    (h : ¬ p <+: c :: s) : replaceAll p b (c :: s) = c :: replaceAll p b s := by
  have h' : ¬ p.isPrefixOf (c :: s) = true := by simpa [ List.isPrefixOf_iff_prefix] using h
  rw [replaceAll, replaceFrom, if_neg h', replaceFrom_eq_drop]
  rfl

/-! ## At work -/

example : replaceAll "aa".toList "x".toList "aaaba".toList = "xaba".toList := by decide

example : replaceAll "@".toList "@@".toList "a@b@".toList = "a@@b@@".toList := by decide

end Splice.Text
