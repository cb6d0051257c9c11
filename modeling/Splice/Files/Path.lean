/-
  Paths as they are written.

  A path is a text; nothing is looked up to walk it.  Its parts are what stands between slashes,
  where empty parts and single dots say nothing, except a single dot at the very beginning of a
  relative path, which counts as a part.  The parent of a path drops its last part, and with it all
  slashes and dots that then stand at the end; what comes before is kept as it was written.

  `nearest n p` is the path and its ancestors, at most `n` of them: the path itself first, exactly
  as written.
-/

namespace Splice.Files.Path

/-- The texts between the slashes; there is always one more than there are slashes. -/
def pieces : List Char → List (List Char)
  | [] => [[]]
  | c :: r =>
    if c = '/' then [] :: pieces r
    else match pieces r with
      | [] => [[c]]
      | s :: ss => (c :: s) :: ss

/-- The texts with slashes between. -/
def unpieces : List (List Char) → List Char
  | [] => []
  | [s] => s
  | s :: t :: ss => s ++ '/' :: unpieces (t :: ss)

theorem pieces_ne_nil (p : List Char) : pieces p ≠ [] := by
  cases p with
  | nil => simp [pieces]
  | cons c r =>
    unfold pieces
    split
    · simp
    · split <;> simp

/-- Whether a piece says nothing. -/
def isIdle (s : List Char) : Bool := s == [] || s == ['.']

/-- The pieces without the idle ones at the end. -/
def trimmed (ss : List (List Char)) : List (List Char) := (ss.reverse.dropWhile isIdle).reverse

/-- The beginning that is no ordinary part — the root, or a leading dot — and what follows it. -/
def splitHead : List Char → List Char × List Char
  | '/' :: r => (['/'], r)
  | ['.'] => (['.'], [])
  | '.' :: '/' :: r => (['.'], '/' :: r)
  | p => ([], p)

/-- The path without its last part; the root and the empty path have no parent. -/
def parent? (p : List Char) : Option (List Char) :=
  let (head, body) := splitHead p
  match trimmed (pieces body) with
  | [] => if head = ['.'] then some [] else none
  | ss => some (head ++ unpieces (trimmed ss.dropLast))

/-- The path and its ancestors, nearest first, at most `n` of them. -/
def nearest : Nat → List Char → List (List Char)
  | 0, _ => []
  | n + 1, p =>
    p :: match parent? p with
      | none => []
      | some q => nearest n q

/-- The path of a file in a directory. -/
def join (dir name : List Char) : List Char :=
  match dir.getLast? with
  | none => name
  | some '/' => dir ++ name
  | some _ => dir ++ '/' :: name

/-! ## At work -/

example : nearest 9 "a/b".toList = ["a/b".toList, "a".toList, []] := by decide

example : nearest 9 "a/b/.".toList = ["a/b/.".toList, "a".toList, []] := by decide

example : nearest 9 "./a//c/".toList
    = ["./a//c/".toList, "./a".toList, ".".toList, []] := by decide

example : nearest 2 "/a/..".toList = ["/a/..".toList, "/a".toList] := by decide

end Splice.Files.Path
