/-
  Paths and their ancestors, by level.

  `ancestor? k p` is the path `p` with its parent taken `k` times.  The list of the nearest
  ancestors of a path has the ancestor of each level in its place (`getElem?_nearest`), and nothing
  else is in it (`mem_nearest_iff`).  It can be cut at any level it goes up to (`nearest_cut`), and
  one level more is one directory more at its end (`nearest_succ_of_ancestor`).
-/
import Splice.Files.Path

namespace Splice.Files.Path

variable {p q dir : List Char} {n k : Nat}

/-- The ancestor of a path a number of levels up; at level 0 it is the path itself. -/
def ancestor? : Nat → List Char → Option (List Char)
  | 0, p => some p
  | k + 1, p => (parent? p).bind (ancestor? k)

theorem ancestor?_succ (k : Nat) (p : List Char) :
    ancestor? (k + 1) p = (parent? p).bind (ancestor? k) := rfl

theorem nearest_succ_of_none (h : parent? p = none) : nearest (n + 1) p = [p] := by
  rw [nearest, h]

theorem nearest_succ_of_some (h : parent? p = some q) : nearest (n + 1) p = p :: nearest n q := by
  rw [nearest, h]

/-- The list is cut at each level it goes up to. -/
theorem nearest_cut (hk : k < n) (h : ancestor? k p = some dir) :
    ∃ rest, nearest n p = nearest k p ++ dir :: rest := by
  induction k generalizing n p with
  | zero =>
    obtain ⟨n, rfl⟩ : ∃ n', n = n' + 1 := ⟨n - 1, by omega⟩
    obtain rfl : p = dir := Option.some.inj h
    exact ⟨_, by rw [nearest, nearest, List.nil_append]⟩
  | succ k ih =>
    obtain ⟨n, rfl⟩ : ∃ n', n = n' + 1 := ⟨n - 1, by omega⟩
    obtain ⟨q, hq, hdir⟩ := Option.bind_eq_some_iff.mp h
    obtain ⟨rest, hrest⟩ := ih (Nat.lt_of_succ_lt_succ hk) hdir
    refine ⟨rest, ?_⟩
    rw [nearest_succ_of_some hq, nearest_succ_of_some hq, hrest, List.cons_append]

/-- One level further up is one directory more. -/
theorem nearest_succ_of_ancestor (h : ancestor? k p = some dir) :
    nearest (k + 1) p = nearest k p ++ [dir] := by
  induction k generalizing p with
  | zero =>
    obtain rfl : p = dir := Option.some.inj h
    cases hp : parent? p with
    | none => exact nearest_succ_of_none hp
    | some q => exact nearest_succ_of_some hp
  | succ k ih =>
    obtain ⟨q, hq, hdir⟩ := Option.bind_eq_some_iff.mp h
    rw [nearest_succ_of_some hq, nearest_succ_of_some hq, ih hdir, List.cons_append]

/-- The directories of the list are the ancestors by level. -/
theorem getElem?_nearest (n k : Nat) (p : List Char) :
    (nearest n p)[k]? = if k < n then ancestor? k p else none := by
  induction n generalizing k p with
  | zero => rfl
  | succ n ih =>
    cases k with
    | zero => cases hp : parent? p <;> simp [nearest, ancestor?]
    | succ k =>
      cases hp : parent? p with
      | none => simp [nearest, hp, ancestor?_succ]
      | some q => simp [nearest, hp, ancestor?_succ, ih]

theorem mem_nearest_iff : dir ∈ nearest n p ↔ ∃ j < n, ancestor? j p = some dir := by
  rw [List.mem_iff_getElem?]
  simp only [getElem?_nearest]
  constructor
  · rintro ⟨j, hj⟩
    by_cases hlt : j < n
    · exact ⟨j, hlt, by rwa [if_pos hlt] at hj⟩
    · rw [if_neg hlt] at hj
      exact nomatch hj
  · rintro ⟨j, hlt, hj⟩
    exact ⟨j, by rw [if_pos hlt, hj]⟩

end Splice.Files.Path
