/-
  What replacing a placeholder does to a text.

  1. **The scan as an induction** — a text is empty, or begins with the placeholder, or begins with
     a character at which no placeholder starts.  `scan_induction` is induction along the scan that
     replaces; it is all that is used of the recursion of `replaceAll`.

  2. **Separators** — a character that the placeholder does not contain cuts a text: nothing
     straddles it.  Occurrence (`infix_append_cons_iff`) and replacement (`replaceAll_append_cons`)
     go through the two parts separately.  So does a whole text of such characters
     (`infix_append_append_iff`).

  3. **Nothing happens** — a text without the placeholder stays as it is, and a text that stays as
     it is has no placeholder, unless the placeholder is replaced by itself
     (`replaceAll_eq_self_iff`).  The reason is the length: each replacement changes it by the same
     amount (`length_replaceAll`).

  4. **What is put in stays** — nothing that has been put in is looked at again, so that it stands
     in the result as a whole (`infix_replaceAll`).
-/
import Splice.Text.Substitute

namespace Splice.Text

variable {p b s t : List Char} {c : Char}

/-! ## The scan as an induction -/

/-- Induction along the scan for a placeholder that is not empty. -/
theorem scan_induction (hp : p ≠ []) {motive : List Char → Prop} (nil : motive [])
    (found : ∀ s, motive s → motive (p ++ s))
    (skip : ∀ c s, ¬ p <+: c :: s → motive s → motive (c :: s)) (s : List Char) : motive s := by
  cases s with
  | nil => exact nil
  | cons c s =>
    by_cases h : p <+: c :: s
    · obtain ⟨r, hr⟩ := h
      -- the placeholder is not empty, so that what follows it is shorter
      have hle : r.length ≤ s.length := by
        have hpos := List.length_pos_iff.mpr hp
        have hlen := congrArg List.length hr
        rw [List.length_append, List.length_cons] at hlen
        omega
      rw [← hr]
      exact found r (scan_induction hp nil found skip r)
    · exact skip c s h (scan_induction hp nil found skip s)
termination_by s.length
decreasing_by all_goals simp only [List.length_cons]; omega

/-! ## Separators -/

/-- A prefix that does not contain the separator ends before it. -/
theorem prefix_append_cons_iff (hc : c ∉ p) : p <+: s ++ c :: t ↔ p <+: s := by
  constructor
  · intro h
    induction s generalizing p with
    | nil =>
      cases p with
      | nil => exact List.nil_prefix
      | cons d p =>
        obtain ⟨rfl, -⟩ := List.cons_prefix_cons.mp h
        exact absurd List.mem_cons_self hc
    | cons d s ih =>
      cases p with
      | nil => exact List.nil_prefix
      | cons e p =>
        obtain ⟨rfl, htail⟩ := List.cons_prefix_cons.mp h
        exact List.cons_prefix_cons.mpr ⟨rfl, ih (fun hm => hc (List.mem_cons_of_mem _ hm)) htail⟩
  · intro h
    exact h.trans (List.prefix_append s _)

/-- What does not contain the separator stands on one side of it. -/
theorem infix_append_cons_iff (hc : c ∉ p) : p <:+: s ++ c :: t ↔ p <:+: s ∨ p <:+: t := by
  induction s with
  | nil =>
    rw [List.nil_append, List.infix_cons_iff, ← List.nil_append (c :: t),
      prefix_append_cons_iff hc, List.infix_nil, List.prefix_nil]
  | cons d s ih =>
    rw [List.cons_append, List.infix_cons_iff, ← List.cons_append, prefix_append_cons_iff hc, ih,
      List.infix_cons_iff, or_assoc]

/-- A text of separators cuts as one separator does. -/
theorem infix_append_append_iff (hb : b ≠ []) (hd : ∀ c ∈ b, c ∉ p) (s t : List Char) :
    p <:+: s ++ (b ++ t) ↔ p <:+: s ∨ p <:+: t := by
  induction b generalizing s with
  | nil => exact absurd rfl hb
  | cons c b ih =>
    have hc : c ∉ p := hd c List.mem_cons_self
    rw [List.cons_append, infix_append_cons_iff hc]
    by_cases hb' : b = []
    · rw [hb', List.nil_append]
    · have hrest := ih hb' (fun d hmem => hd d (List.mem_cons_of_mem c hmem)) []
      rw [List.nil_append] at hrest
      rw [hrest]
      -- nothing but the empty text stands between two separators
      have hnone : p <:+: [] → p <:+: s := fun h => List.infix_nil.mp h ▸ List.nil_infix
      constructor
      · rintro (h | h | h)
        · exact .inl h
        · exact .inl (hnone h)
        · exact .inr h
      · rintro (h | h)
        · exact .inl h
        · exact .inr (.inr h)

/-- The parts on both sides of a separator are replaced in separately. -/
theorem replaceAll_append_cons (b : List Char) (hp : p ≠ []) (hc : c ∉ p) (s t : List Char) :
    replaceAll p b (s ++ c :: t) = replaceAll p b s ++ c :: replaceAll p b t := by
  induction s using scan_induction hp with
  | nil =>
    have hskip : ¬ p <+: c :: t := fun h =>
      hp (List.prefix_nil.mp ((prefix_append_cons_iff (s := []) hc).mp h))
    rw [List.nil_append, replaceAll_skip b hskip, replaceAll_nil, List.nil_append]
  | found s ih =>
    rw [List.append_assoc, replaceAll_match b _ hp, replaceAll_match b _ hp, ih, List.append_assoc]
  | skip d s h ih =>
    have hskip : ¬ p <+: d :: (s ++ c :: t) := fun hd =>
      h ((prefix_append_cons_iff (s := d :: s) hc).mp hd)
    rw [List.cons_append, replaceAll_skip b hskip, replaceAll_skip b h, ih, List.cons_append]

/-! ## Nothing happens -/

/-- A text without the placeholder stays as it is. -/
theorem replaceAll_of_not_infix (b : List Char) (h : ¬ p <:+: s) : replaceAll p b s = s := by
  induction s with
  | nil => exact replaceAll_nil p b
  | cons c s ih =>
    rw [List.infix_cons_iff, not_or] at h
    rw [replaceAll_skip b h.1, ih h.2]

/-- The placeholder itself becomes the body. -/
theorem replaceAll_self (b : List Char) (hp : p ≠ []) : replaceAll p b p = b := by
  have h := replaceAll_match b [] hp
  rwa [List.append_nil, replaceAll_nil, List.append_nil] at h

/-- Every replacement changes the length by the same amount, and there is one if the placeholder
    occurs. -/
theorem length_replaceAll (b : List Char) (hp : p ≠ []) (s : List Char) :
    ∃ k, (p <:+: s → 0 < k) ∧
      (replaceAll p b s).length + k * p.length = s.length + k * b.length := by
  induction s using scan_induction hp with
  | nil =>
    refine ⟨0, fun h => absurd (List.infix_nil.mp h) hp, ?_⟩
    rw [replaceAll_nil, Nat.zero_mul, Nat.zero_mul]
  | found s ih =>
    obtain ⟨k, -, hk⟩ := ih
    refine ⟨k + 1, fun _ => Nat.succ_pos k, ?_⟩
    rw [replaceAll_match b s hp, List.length_append, List.length_append, Nat.succ_mul,
      Nat.succ_mul]
    omega
  | skip c s h ih =>
    obtain ⟨k, hpos, hk⟩ := ih
    refine ⟨k, fun hinf => hpos ((List.infix_cons_iff.mp hinf).resolve_left h), ?_⟩
    rw [replaceAll_skip b h, List.length_cons, List.length_cons]
    omega

/-- Two texts that keep their length together when the placeholder is replaced keep it both. -/
theorem length_replaceAll_eq_of_add (hp : p ≠ []) (s t : List Char)
    (h : (replaceAll p b s).length + (replaceAll p b t).length = s.length + t.length) :
    (replaceAll p b s).length = s.length := by
  obtain ⟨k, -, hk⟩ := length_replaceAll b hp s
  obtain ⟨l, -, hl⟩ := length_replaceAll b hp t
  rcases Nat.le_total p.length b.length with hle | hle
  · have h₁ := Nat.mul_le_mul_left k hle
    have h₂ := Nat.mul_le_mul_left l hle
    omega
  · have h₁ := Nat.mul_le_mul_left k hle
    have h₂ := Nat.mul_le_mul_left l hle
    omega

/-- A text stays as it is exactly if there is nothing in it to replace. -/
theorem replaceAll_eq_self_iff (hp : p ≠ []) (hb : b ≠ p) :
    replaceAll p b s = s ↔ ¬ p <:+: s := by
  refine ⟨fun h => ?_, replaceAll_of_not_infix b⟩
  -- the length is kept, so that either there was no replacement or `b` is as long as `p`
  obtain ⟨k, hpos, hk⟩ := length_replaceAll b hp s
  rw [h, Nat.add_left_cancel_iff] at hk
  rcases Nat.eq_zero_or_pos k with rfl | hkpos
  · exact fun hinf => Nat.lt_irrefl 0 (hpos hinf)
  · have hlen : p.length = b.length := Nat.eq_of_mul_eq_mul_left hkpos hk
    clear hk hpos
    induction s using scan_induction hp with
    | nil => exact fun hinf => hp (List.infix_nil.mp hinf)
    | found s _ =>
      rw [replaceAll_match b s hp] at h
      exact absurd (List.append_inj h hlen.symm).1 hb
    | skip c s hskip ih =>
      rw [replaceAll_skip b hskip] at h
      rw [List.infix_cons_iff, not_or]
      exact ⟨hskip, ih (List.cons.inj h).2⟩

/-! ## What is put in stays -/

/-- If there is something to replace, what it is replaced by stands in the result. -/
theorem infix_replaceAll (b : List Char) (hp : p ≠ []) (h : p <:+: s) :
    b <:+: replaceAll p b s := by
  induction s using scan_induction hp with
  | nil => exact absurd (List.infix_nil.mp h) hp
  | found s _ =>
    rw [replaceAll_match b s hp]
    exact (List.prefix_append b _).isInfix
  | skip c s hskip ih =>
    have hrest : p <:+: s := (List.infix_cons_iff.mp h).resolve_left hskip
    rw [replaceAll_skip b hskip]
    exact List.infix_cons_iff.mpr (.inr (ih hrest))

end Splice.Text
