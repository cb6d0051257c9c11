/-
  Filling the template of an override.

  The placeholder is written into the template as plain text (`override_eq`), so that filling
  replaces it wherever it stands, in the signature and the super call too.  A placeholder without a
  space that is not one of the two braces cannot straddle the parts of the template: filling the
  template is filling the parts and writing the template around the body
  (`replaceAll_overrideChars`).  The result is the template around the body, with both parts
  untouched, exactly if the placeholder occurs in neither (`replaceAll_overrideChars_eq_iff`); the
  length of the text decides it also where a change in one part might seem to be undone by a change
  in the other.

  Any template, of an override or not, has a place for the body exactly if the placeholder is not
  empty and occurs (`holds_iff`).  Then the body stands in the filled template (`infix_filled`);
  otherwise the template stays as it is, and it is put on record that the tag is missing.
-/
import Splice.Proofs.Text.Substitute
import Splice.Template

namespace Splice.Template

open Text

variable {sig sup tag body : List Char} {c : Char} {side : Side}

/-! ## The parts of a template -/

theorem overrideChars_before (sig sup tag : List Char) :
    overrideChars sig sup tag .before =
      sig ++ ' ' :: (['{'] ++ ' ' :: (tag ++ ' ' :: (sup ++ ' ' :: ['}']))) := by
  simp [overrideChars]

theorem overrideChars_after (sig sup tag : List Char) :
    overrideChars sig sup tag .after =
      sig ++ ' ' :: (['{'] ++ ' ' :: (sup ++ ' ' :: (tag ++ ' ' :: ['}']))) := by
  simp [overrideChars]

theorem override_before (sig sup tag : String) :
    override sig sup tag .before = sig ++ " \x7b " ++ tag ++ " " ++ sup ++ " \x7d" := by
  rw [← String.toList_inj]
  simp [override, overrideChars]

theorem override_after (sig sup tag : String) :
    override sig sup tag .after = sig ++ " \x7b " ++ sup ++ " " ++ tag ++ " \x7d" := by
  rw [← String.toList_inj]
  simp [override, overrideChars]

/-- The template of an override, written out. -/
theorem override_eq (sig sup tag : String) (side : Side) :
    override sig sup tag side =
      match side with
      | .before => sig ++ " \x7b " ++ tag ++ " " ++ sup ++ " \x7d"
      | .after => sig ++ " \x7b " ++ sup ++ " " ++ tag ++ " \x7d" := by
  cases side with
  | before => exact override_before sig sup tag
  | after => exact override_after sig sup tag

theorem length_overrideChars (sig sup tag : List Char) (side : Side) :
    (overrideChars sig sup tag side).length = sig.length + sup.length + tag.length + 6 := by
  cases side with
  | before =>
    rw [overrideChars_before]
    simp only [List.length_append, List.length_cons, List.length_nil]
    omega
  | after =>
    rw [overrideChars_after]
    simp only [List.length_append, List.length_cons, List.length_nil]
    omega

/-- Where one part ends is known from its length. -/
theorem overrideChars_inj {sig' sup' : List Char} (hlen : sig.length = sig'.length)
    (h : overrideChars sig sup tag side = overrideChars sig' sup' tag side) :
    sig = sig' ∧ sup = sup' := by
  cases side with
  | before =>
    rw [overrideChars_before, overrideChars_before] at h
    obtain ⟨hsig, h⟩ := List.append_inj h hlen
    simp only [List.cons.injEq, true_and, List.append_cancel_left_eq] at h
    exact ⟨hsig, List.append_cancel_right h⟩
  | after =>
    rw [overrideChars_after, overrideChars_after] at h
    obtain ⟨hsig, h⟩ := List.append_inj h hlen
    simp only [List.cons.injEq, true_and, List.append_cancel_left_eq] at h
    exact ⟨hsig, List.append_cancel_right h⟩

/-- The placeholder stands in the template. -/
theorem tag_infix_overrideChars (sig sup tag : List Char) (side : Side) :
    tag <:+: overrideChars sig sup tag side := by
  cases side with
  | before => exact ⟨sig ++ " \x7b ".toList, ' ' :: sup ++ " \x7d".toList, by simp [overrideChars]⟩
  | after => exact ⟨sig ++ " \x7b ".toList ++ sup ++ [' '], " \x7d".toList, by simp [overrideChars]⟩

/-! ## Filling it -/

theorem replaceAll_singleton (ht : tag ≠ []) (hc : tag ≠ [c]) : replaceAll tag body [c] = [c] := by
  refine replaceAll_of_not_infix body fun h => ?_
  rcases List.infix_cons_iff.mp h with h | h
  · rcases List.prefix_cons_iff.mp h with rfl | ⟨t, rfl, ht'⟩
    · exact ht rfl
    · exact hc (by rw [List.prefix_nil.mp ht'])
  · exact ht (List.infix_nil.mp h)

/-- Filling a template is filling its parts. -/
theorem replaceAll_overrideChars (ht : tag ≠ []) (hspace : ' ' ∉ tag) (hopen : tag ≠ ['{'])
    (hclose : tag ≠ ['}']) (sig sup body : List Char) (side : Side) :
    replaceAll tag body (overrideChars sig sup tag side) =
      overrideChars (replaceAll tag body sig) (replaceAll tag body sup) body side := by
  cases side with
  | before =>
    rw [overrideChars_before, overrideChars_before, replaceAll_append_cons _ ht hspace,
      replaceAll_append_cons _ ht hspace, replaceAll_append_cons _ ht hspace,
      replaceAll_append_cons _ ht hspace, replaceAll_singleton ht hopen,
      replaceAll_singleton ht hclose, replaceAll_self _ ht]
  | after =>
    rw [overrideChars_after, overrideChars_after, replaceAll_append_cons _ ht hspace,
      replaceAll_append_cons _ ht hspace, replaceAll_append_cons _ ht hspace,
      replaceAll_append_cons _ ht hspace, replaceAll_singleton ht hopen,
      replaceAll_singleton ht hclose, replaceAll_self _ ht]

/-- Both parts come out untouched exactly if the placeholder occurs in neither. -/
theorem replaceAll_overrideChars_eq_iff (ht : tag ≠ []) (hspace : ' ' ∉ tag)
    (hopen : tag ≠ ['{']) (hclose : tag ≠ ['}']) (hb : body ≠ tag) :
    replaceAll tag body (overrideChars sig sup tag side) = overrideChars sig sup body side ↔
      ¬ tag <:+: sig ∧ ¬ tag <:+: sup := by
  rw [replaceAll_overrideChars ht hspace hopen hclose, ← replaceAll_eq_self_iff ht hb,
    ← replaceAll_eq_self_iff ht hb]
  constructor
  · intro h
    -- the two parts together keep their length, hence each does, and they can be told apart
    have hlen := congrArg List.length h
    rw [length_overrideChars, length_overrideChars] at hlen
    exact overrideChars_inj (length_replaceAll_eq_of_add ht sig sup (by omega)) h
  · rintro ⟨hsig, hsup⟩
    rw [hsig, hsup]

/-! ## A place for the body -/

/-- A template has a place for the body if the placeholder occurs in it and is not empty. -/
theorem holds_iff {template tag : String} :
    holds template tag = true ↔ tag ≠ "" ∧ tag.toList <:+: template.toList := by
  rw [holds, Bool.and_eq_true, occurs_iff, Bool.not_eq_true', Bool.eq_false_iff, ne_eq, ne_eq,
    String.isEmpty_iff]

/-- It has none if the placeholder is empty or does not occur in it. -/
theorem not_holds_iff {template tag : String} :
    holds template tag ≠ true ↔ tag = "" ∨ ¬ tag.toList <:+: template.toList := by
  rw [ne_eq, holds_iff, Decidable.not_and_iff_or_not, Decidable.not_not]

/-- What is put on record of a template that has no place for the body. -/
def tagMissing (tag : String) : Record :=
  ⟨.warn, "Full method doesn't contain body tag (body tag=" ++ Text.Quoted.encode tag ++ ")"⟩

theorem records_fill_of_holds {template tag : String} (h : holds template tag = true)
    (body : String) : (fill template tag body).records = [] := by
  rw [records_fill, if_pos h]

theorem records_fill_of_not_holds {template tag : String} (h : holds template tag ≠ true)
    (body : String) : (fill template tag body).records = [tagMissing tag] := by
  rw [records_fill, if_neg h]
  rfl

/-- A template that has no place for the body stays as it is. -/
theorem filled_of_not_holds {template tag : String} (h : holds template tag ≠ true)
    (body : String) : filled template tag body = template :=
  if_neg h

theorem toList_ne {s t : String} (h : s ≠ t) : s.toList ≠ t.toList := h ∘ String.toList_inj.mp

theorem toList_ne_nil {tag : String} (h : tag ≠ "") : tag.toList ≠ [] := toList_ne h

/-- In a template that has a place for it the placeholder is replaced. -/
theorem toList_filled {template tag : String} (h : holds template tag = true) (body : String) :
    (filled template tag body).toList = replaceAll tag.toList body.toList template.toList := by
  rw [filled, if_pos h, String.toList_ofList]

/-- In a template that has a place for it, the body stands as a whole. -/
theorem infix_filled {template tag : String} (h : holds template tag = true) (body : String) :
    body.toList <:+: (filled template tag body).toList := by
  obtain ⟨ht, hocc⟩ := holds_iff.mp h
  rw [toList_filled h]
  exact infix_replaceAll body.toList (toList_ne_nil ht) hocc

/-! ## As texts -/

/-- The template of an override has a place for the body. -/
theorem holds_override {tag : String} (ht : tag ≠ "") (sig sup : String) (side : Side) :
    holds (Template.override sig sup tag side) tag = true := by
  refine holds_iff.mpr ⟨ht, ?_⟩
  rw [Template.override, String.toList_ofList]
  exact tag_infix_overrideChars ..

/-- The filled template of an override is the template written around the body exactly if the
    placeholder is fresh for both parts. -/
theorem filled_override_eq_iff {tag body : String} (ht : tag ≠ "") (hspace : ' ' ∉ tag.toList)
    (hopen : tag ≠ "\x7b") (hclose : tag ≠ "\x7d") (hb : body ≠ tag) (sig sup : String)
    (side : Side) :
    filled (Template.override sig sup tag side) tag body = Template.override sig sup body side ↔
      ¬ tag.toList <:+: sig.toList ∧ ¬ tag.toList <:+: sup.toList := by
  rw [filled, if_pos (holds_override ht sig sup side), Template.override, Template.override,
    String.toList_ofList, String.ofList_inj]
  exact replaceAll_overrideChars_eq_iff (toList_ne ht) hspace (toList_ne hopen) (toList_ne hclose)
    (toList_ne hb)

/-- A placeholder that is fresh for both parts leaves them as they are, whatever the body. -/
theorem filled_override_of_fresh {tag sig sup : String} (ht : tag ≠ "") (hspace : ' ' ∉ tag.toList)
    (hopen : tag ≠ "\x7b") (hclose : tag ≠ "\x7d") (hsig : ¬ tag.toList <:+: sig.toList)
    (hsup : ¬ tag.toList <:+: sup.toList) (body : String) (side : Side) :
    filled (Template.override sig sup tag side) tag body = Template.override sig sup body side := by
  rw [← String.toList_inj, toList_filled (holds_override ht sig sup side), Template.override,
    Template.override, String.toList_ofList, String.toList_ofList,
    replaceAll_overrideChars (toList_ne ht) hspace (toList_ne hopen) (toList_ne hclose),
    replaceAll_of_not_infix _ hsig, replaceAll_of_not_infix _ hsup]

end Splice.Template
