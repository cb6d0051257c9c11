/-
  Filling a text that has been filled before.

  A filled text is the pieces of the template with the body between them.  What a second filling
  makes of it depends on where its placeholder can stand in such a row:

      piece₀  body  piece₁  body  …  pieceₖ

  1. **The first placeholder again** — it stands in no piece (`Pieces.not_infix_of_mem`).  If the
     body shares no character with it and is not empty, it cannot reach over a body either, and the
     second filling finds nothing (`Pieces.not_infix_replaceAll`).

  2. **A fresh placeholder in place of the body** — it stands where it was put in and nowhere else,
     so that the pieces around it are those of the template, and the second filling puts the body
     where the first placeholder was (`Pieces.replaceAll_replaceAll`).  For this it is enough that
     the character the fresh placeholder BEGINS with is not in the template: however the placeholder
     overlaps itself, the scan first meets it where it was put in.
-/
import Splice.Proofs.Template.Pieces

namespace Splice

namespace Text

variable {p b q s : List Char} {c : Char} {ss : List (List Char)}

/-- A body that shares no character with the placeholder leaves no placeholder behind. -/
theorem Pieces.not_infix_replaceAll (hp : p ≠ []) (h : Pieces p s ss) (hb : b ≠ [])
    (hd : ∀ c ∈ b, c ∉ p) : ¬ p <:+: replaceAll p b s := by
  rw [h.replaceAll_eq hp b, infix_intercalate_iff hb hd h.ne_nil]
  -- the bodies keep the pieces apart, so that a placeholder left over would stand in one of these
  rintro ⟨t, ht, hocc⟩
  exact h.not_infix_of_mem hp ht hocc

/-- To replace by something fresh and then to replace that is to replace at once. -/
theorem Pieces.replaceAll_replaceAll (hp : p ≠ []) (h : Pieces p s ss) (hc : c ∉ s) :
    replaceAll (c :: q) b (replaceAll p (c :: q) s) = replaceAll p b s := by
  have hfresh : ∀ t ∈ ss, c ∉ t := by
    intro t ht hmem
    have hin : t <:+: s := h.joined ▸ infix_intercalate p ht
    exact hc (hin.subset hmem)
  have hpieces : Pieces (c :: q) (List.intercalate (c :: q) ss) ss :=
    pieces_intercalate h.ne_nil hfresh
  calc replaceAll (c :: q) b (replaceAll p (c :: q) s)
      = replaceAll (c :: q) b (List.intercalate (c :: q) ss) := by rw [h.replaceAll_eq hp (c :: q)]
    _ = List.intercalate b ss := hpieces.replaceAll_eq (List.cons_ne_nil c q) b
    _ = replaceAll p b s := (h.replaceAll_eq hp b).symm

end Text

/-! ## Templates -/

namespace Template

/-- A body that is not empty and has no character in common with the placeholder leaves none
    behind, so that nothing can be put into the text any more. -/
theorem fill_leaves_no_tag (template tag body : String) (htag : tag ≠ "") (hbody : body ≠ "")
    (hapart : ∀ c ∈ body.toList, c ∉ tag.toList) :
    ¬ tag.toList <:+: (fill template tag body).value.toList ∧
    ∀ other : String,
      (fill (fill template tag body).value tag other).value = (fill template tag body).value := by
  simp only [value_fill]
  have hnone : ¬ tag.toList <:+: (filled template tag body).toList := by
    by_cases hholds : holds template tag = true
    · obtain ⟨ss, hss⟩ := Text.exists_pieces (toList_ne_nil htag) template.toList
      rw [toList_filled hholds]
      exact hss.not_infix_replaceAll (toList_ne_nil htag) (toList_ne_nil hbody) hapart
    · rw [filled_of_not_holds hholds]
      exact (not_holds_iff.mp hholds).resolve_left htag
  exact ⟨hnone, fun other => filled_of_not_holds (not_holds_iff.mpr (.inr hnone)) other⟩

/-- A placeholder between the halves of another: what is put in keeps them apart. -/
theorem fill_leaves_no_tag_twice :
    ("BODY" ≠ "" ∧ "x" ≠ "" ∧ ∀ c ∈ "x".toList, c ∉ "BODY".toList) ∧
      (fill "BOBODYDY; BODY" "BODY" "x").value = "BOxDY; x" ∧
      ¬ "BODY".toList <:+: "BOxDY; x".toList ∧
      (fill "BOxDY; x" "BODY" "y").value = "BOxDY; x" := by
  have hvalue : (fill "BOBODYDY; BODY" "BODY" "x").value = "BOxDY; x" := by
    rw [value_fill]
    decide +kernel
  have hapart : ∀ c ∈ "x".toList, c ∉ "BODY".toList := by simp
  have h := fill_leaves_no_tag "BOBODYDY; BODY" "BODY" "x" (by decide) (by decide) hapart
  rw [hvalue] at h
  exact ⟨⟨by decide, by decide, hapart⟩, hvalue, h.1, h.2 "y"⟩

/-- Neither an empty body nor one made of parts of the placeholder will do: a placeholder comes
    together around it. -/
example : (fill "BOBODYDY" "BODY" "").value = "BODY" ∧
    (fill "BOBODYDY" "BODY" "DYBO").value = "BODYBODY" := by
  rw [value_fill, value_fill]
  decide +kernel

/-- To write a template with a fresh placeholder and then to fill it is to fill it. -/
theorem fill_through_fresh_tag (template tag body fresh : String) (hne : fresh ≠ "")
    (hfresh : ∀ c ∈ fresh.toList, c ∉ template.toList) :
    (fill (fill template tag fresh).value fresh body).value = (fill template tag body).value := by
  simp only [value_fill]
  obtain ⟨c, q, hq⟩ := List.exists_cons_of_ne_nil (toList_ne_nil hne)
  have hc : c ∉ template.toList := hfresh c (hq ▸ List.mem_cons_self)
  by_cases hholds : holds template tag = true
  · -- the fresh placeholder stands where the first one stood
    have htag : tag.toList ≠ [] := toList_ne_nil (holds_iff.mp hholds).1
    have hthere : holds (filled template tag fresh) fresh = true :=
      holds_iff.mpr ⟨hne, infix_filled hholds fresh⟩
    obtain ⟨ss, hss⟩ := Text.exists_pieces htag template.toList
    rw [← String.toList_inj, toList_filled hthere, toList_filled hholds, toList_filled hholds, hq]
    exact hss.replaceAll_replaceAll htag hc
  · -- there is nothing to replace, and nothing fresh is put in
    have hnone : holds template fresh ≠ true := by
      refine not_holds_iff.mpr (.inr fun hocc => hc ?_)
      exact hocc.subset (hq ▸ List.mem_cons_self)
    rw [filled_of_not_holds hholds, filled_of_not_holds hholds, filled_of_not_holds hnone]

/-- Both placeholders overlap themselves, and the fresh one is put in twice in a row. -/
theorem fill_through_fresh_tag_overlapping :
    ("xyx" ≠ "" ∧ ∀ c ∈ "xyx".toList, c ∉ "aaaaab".toList) ∧
      (fill "aaaaab" "aa" "xyx").value = "xyxxyxab" ∧
      (fill "xyxxyxab" "xyx" "f();").value = (fill "aaaaab" "aa" "f();").value := by
  have hfresh : ∀ c ∈ "xyx".toList, c ∉ "aaaaab".toList := by simp
  have hvalue : (fill "aaaaab" "aa" "xyx").value = "xyxxyxab" := by
    rw [value_fill]
    decide +kernel
  have h := fill_through_fresh_tag "aaaaab" "aa" "f();" "xyx" (by decide) hfresh
  rw [hvalue] at h
  exact ⟨⟨by decide, hfresh⟩, hvalue, h⟩

end Template

end Splice
