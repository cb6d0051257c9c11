/-
  Where a placeholder stands in the texts of a method.

  An override is written with the two texts of a method next to the placeholder, and every
  occurrence of the placeholder is replaced afterwards, also one that the texts happen to bring
  along.  So it matters which methods bring it along.  The answer is read off the method itself if
  the placeholder is `Foreign`: if it has no character that a text has between the parts of the
  method.  Then no occurrence reaches from one part into another, and it stands in a text exactly
  if it stands in one of the parts the text is made of (`infix_signatureChars_iff`,
  `infix_superCallChars_iff`); a modifier that is left out is none of them.

  The texts are taken apart from the outside: what the writer adds falls away
  (`Text.infix_append_iff_left`, `Text.infix_append_iff_right`), a row is cut at its separators
  (`infix_separated_iff`), and what is left are the parts.
-/
import Splice.Proofs.Method.Signature

namespace Splice

namespace Text

variable {p s t b : List Char}

/-- What does not share a character with what is sought can be left out behind a text. -/
theorem infix_append_iff_left (hp : p ≠ []) (hb : ∀ c ∈ p, c ∉ b) :
    p <:+: s ++ b ↔ p <:+: s := by
  by_cases hnil : b = []
  · rw [hnil, List.append_nil]
  · have hcut := infix_append_append_iff hnil (fun c hc hmem => hb c hmem hc) s []
    rw [List.append_nil, List.infix_nil] at hcut
    exact hcut.trans (or_iff_left hp)

/-- It can be left out before a text as well. -/
theorem infix_append_iff_right (hp : p ≠ []) (hb : ∀ c ∈ p, c ∉ b) :
    p <:+: b ++ s ↔ p <:+: s := by
  by_cases hnil : b = []
  · rw [hnil, List.nil_append]
  · have hcut := infix_append_append_iff hnil (fun c hc hmem => hb c hmem hc) [] s
    rw [List.nil_append, List.infix_nil] at hcut
    exact hcut.trans (or_iff_right hp)

end Text

namespace Method

open Text

variable {m : Method} {c : Char} {p : List Char} {ss : List (List Char)} {tag : String}

/-! ## What the writer adds -/

/-- The characters that stand in a text without being a part of the method. -/
def ownChars : List Char :=
  " (),;.0123456789".toList ++ "p".toList ++ "throws".toList ++ "super".toList ++ "return".toList

/-- A text that is not empty and has no character in common with what the writer adds. -/
def Foreign (tag : String) : Prop := tag ≠ "" ∧ Avoids tag ownChars

instance (tag : String) : Decidable (Foreign tag) := instDecidableAnd

theorem mem_ownChars_of_isDigit (h : c.isDigit = true) : c ∈ ownChars := by
  have hdigits : ∀ n ∈ List.range' 48 10, Char.ofNat n ∈ ownChars := by decide
  have hrange : c.toNat ∈ List.range' 48 10 := by
    rw [List.mem_range'_1]
    simp only [Char.isDigit, Bool.and_eq_true, decide_eq_true_eq, ge_iff_le,
      UInt32.le_iff_toNat_le] at h
    exact ⟨h.1, Nat.lt_succ_of_le h.2⟩
  rw [← Char.ofNat_toNat c]
  exact hdigits c.toNat hrange

theorem not_mem_parameterName_of_foreign (h : c ∉ ownChars) (i : Nat) : c ∉ parameterName i := by
  have hp : c ≠ 'p' := by
    rintro rfl
    exact h (by decide)
  have hdigit : c.isDigit = false :=
    Bool.eq_false_iff.mpr fun hdigit => h (mem_ownChars_of_isDigit hdigit)
  exact not_mem_parameterName hp hdigit i

namespace Foreign

theorem ne_nil (h : Foreign tag) : tag.toList ≠ [] :=
  fun hnil => h.1 (String.toList_eq_nil_iff.mp hnil)

theorem not_mem (h : Foreign tag) (hc : c ∈ tag.toList) : c ∉ ownChars :=
  fun hown => h.2 c hown hc

/-- It has no character of a text the writer adds. -/
theorem disjoint (h : Foreign tag) {b : List Char} (hb : b ⊆ ownChars) : ∀ c ∈ tag.toList, c ∉ b :=
  fun _ hc hmem => h.not_mem hc (hb hmem)

end Foreign

/-! ## Rows -/

/-- What shares no character with a separator stands in a row if it stands in a text of the row. -/
theorem infix_separated_iff {sep : List Char} (hp : p ≠ []) (hsep : sep ≠ [])
    (hd : ∀ c ∈ p, c ∉ sep) : p <:+: separated sep ss ↔ ∃ t ∈ ss, p <:+: t := by
  by_cases hnil : ss = []
  · subst hnil
    refine iff_of_false (fun h => hp (List.infix_nil.mp h)) ?_
    rintro ⟨t, ht, -⟩
    exact List.not_mem_nil ht
  · rw [separated_eq_intercalate]
    exact infix_intercalate_iff hsep (fun c hc hmem => hd c hmem hc) hnil

/-- A row of strings. -/
theorem Foreign.infix_row_iff (h : Foreign tag) {sep : List Char} (hsep : sep ≠ [])
    (hown : sep ⊆ ownChars) (xs : List String) :
    tag.toList <:+: separated sep (xs.map String.toList) ↔
      ∃ x ∈ xs, tag.toList <:+: x.toList := by
  rw [infix_separated_iff h.ne_nil hsep (h.disjoint hown)]
  simp only [List.mem_map, exists_exists_and_eq_and]

/-- The names of the parameters are the writer's. -/
theorem Foreign.infix_typedParameters_iff (h : Foreign tag) :
    tag.toList <:+: separated [',', ' '] m.typedParameters ↔
      ∃ x ∈ m.parameters, tag.toList <:+: x.toList := by
  have hname : ∀ i, ∀ c ∈ tag.toList, c ∉ ' ' :: parameterName i := by
    intro i c hc hmem
    rcases List.mem_cons.mp hmem with rfl | hmem
    · exact h.not_mem hc (by decide)
    · exact not_mem_parameterName_of_foreign (h.not_mem hc) i hmem
  rw [infix_separated_iff h.ne_nil (by decide) (h.disjoint (by decide))]
  constructor
  · rintro ⟨t, ht, hin⟩
    obtain ⟨i, hi, rfl⟩ := List.mem_mapIdx.mp ht
    exact ⟨m.parameters[i], List.getElem_mem hi,
      (infix_append_iff_left h.ne_nil (hname i)).mp hin⟩
  · rintro ⟨x, hx, hin⟩
    obtain ⟨i, hi, rfl⟩ := List.getElem_of_mem hx
    exact ⟨_, List.mem_mapIdx.mpr ⟨i, hi, rfl⟩,
      (infix_append_iff_left h.ne_nil (hname i)).mpr hin⟩

/-- Before the exception types stands a word of the writer's, and without them nothing. -/
theorem Foreign.infix_throwsClause_iff (h : Foreign tag) :
    tag.toList <:+: m.throwsClause ↔ ∃ x ∈ m.exceptions, tag.toList <:+: x.toList := by
  rw [throwsClause_eq]
  split
  · rename_i hnone
    rw [hnone]
    refine iff_of_false (fun hin => h.ne_nil (List.infix_nil.mp hin)) ?_
    rintro ⟨x, hx, -⟩
    exact List.not_mem_nil hx
  · rw [infix_append_iff_right h.ne_nil (h.disjoint (by decide)),
      h.infix_row_iff (by decide) (by decide)]

/-- Before the name stand the return type and the modifiers that are not left out. -/
theorem Foreign.infix_heading_iff (h : Foreign tag) :
    tag.toList <:+: m.heading ↔ tag.toList <:+: m.returnType.toList ∨
      ∃ x ∈ m.modifiers, x ≠ "abstract" ∧ x ≠ "native" ∧ tag.toList <:+: x.toList := by
  rw [heading, h.infix_row_iff (by decide) (by decide)]
  constructor
  · rintro ⟨x, hx, hin⟩
    rcases List.mem_append.mp hx with hx | hx
    · obtain ⟨hmem, hkept⟩ := List.mem_filter.mp hx
      have hne : x ≠ "abstract" ∧ x ≠ "native" := by simpa [bound] using hkept
      exact .inr ⟨x, hmem, hne.1, hne.2, hin⟩
    · obtain rfl := List.mem_singleton.mp hx
      exact .inl hin
  · rintro (hin | ⟨x, hmem, habstract, hnative, hin⟩)
    · exact ⟨m.returnType, List.mem_append_right _ List.mem_cons_self, hin⟩
    · have hkept : x ∈ m.inheritedModifiers :=
        List.mem_filter.mpr ⟨hmem, by simp [bound, habstract, hnative]⟩
      exact ⟨x, List.mem_append_left _ hkept, hin⟩

/-! ## Both texts -/

/-- The signature brings along what its parts bring along. -/
theorem Foreign.infix_signatureChars_iff (h : Foreign tag) :
    tag.toList <:+: m.signatureChars ↔ tag.toList <:+: m.name.toList ∨
      tag.toList <:+: m.returnType.toList ∨
      (∃ x ∈ m.parameters, tag.toList <:+: x.toList) ∨
      (∃ x ∈ m.exceptions, tag.toList <:+: x.toList) ∨
      ∃ x ∈ m.modifiers, x ≠ "abstract" ∧ x ≠ "native" ∧ tag.toList <:+: x.toList := by
  have hown : ∀ c ∈ ownChars, c ∉ tag.toList := h.2
  have hcut : tag.toList <:+: m.signatureChars ↔
      ((tag.toList <:+: m.heading ∨ tag.toList <:+: m.name.toList) ∨
        tag.toList <:+: separated [',', ' '] m.typedParameters) ∨
        tag.toList <:+: m.throwsClause := by
    rw [signatureChars, infix_append_cons_iff (hown ')' (by decide)),
      infix_append_cons_iff (hown '(' (by decide)), infix_append_cons_iff (hown ' ' (by decide))]
    rfl
  rw [hcut, h.infix_heading_iff, h.infix_typedParameters_iff, h.infix_throwsClause_iff]
  constructor
  · rintro ((((hreturn | hmodifier) | hname) | hparameter) | hexception)
    · exact .inr (.inl hreturn)
    · exact .inr (.inr (.inr (.inr hmodifier)))
    · exact .inl hname
    · exact .inr (.inr (.inl hparameter))
    · exact .inr (.inr (.inr (.inl hexception)))
  · rintro (hname | hreturn | hparameter | hexception | hmodifier)
    · exact .inl (.inl (.inr hname))
    · exact .inl (.inl (.inl (.inl hreturn)))
    · exact .inl (.inr hparameter)
    · exact .inr hexception
    · exact .inl (.inl (.inl (.inr hmodifier)))

/-- The call brings along what the name brings along. -/
theorem Foreign.infix_superCallChars_iff (h : Foreign tag) :
    tag.toList <:+: m.superCallChars ↔ tag.toList <:+: m.name.toList := by
  have hbefore : ∀ c ∈ tag.toList, c ∉ m.callHead := fun c hc =>
    not_mem_callHead (h.disjoint (by decide) c hc)
  have hbehind : ∀ c ∈ tag.toList,
      c ∉ '(' :: (separated [',', ' '] m.arguments ++ [')', ';']) := by
    intro c hc hmem
    rcases List.mem_cons.mp hmem with rfl | hmem
    · exact h.not_mem hc (by decide)
    · rcases List.mem_append.mp hmem with hmem | hmem
      · have hnames : ∀ n ∈ m.arguments, c ∉ n :=
          not_mem_arguments (not_mem_parameterName_of_foreign (h.not_mem hc))
        exact not_mem_separated (h.disjoint (by decide) c hc) hnames hmem
      · exact h.disjoint (b := [')', ';']) (by decide) c hc hmem
  have htext : m.superCallChars = m.callHead ++
      (m.name.toList ++ '(' :: (separated [',', ' '] m.arguments ++ [')', ';'])) := by
    simp only [superCallChars, callHead, List.append_assoc, List.cons_append]
  rw [htext, infix_append_iff_right h.ne_nil hbefore, infix_append_iff_left h.ne_nil hbehind]

/-- A placeholder that is foreign to the writer, as the default one is, stands in the signature of a
    method exactly if it stands in a part that is written, and in the call of it exactly if it
    stands in the name. -/
theorem captured_iff :
    Foreign Template.defaultTag ∧
      ∀ (m : Method) (tag : String), m.name ≠ "" → Foreign tag →
        ∃ sig, m.signature = .ok sig ∧
          (tag.toList <:+: sig.toList ↔ tag.toList <:+: m.name.toList ∨
            tag.toList <:+: m.returnType.toList ∨
            (∃ x ∈ m.parameters, tag.toList <:+: x.toList) ∨
            (∃ x ∈ m.exceptions, tag.toList <:+: x.toList) ∨
            ∃ x ∈ m.modifiers, x ≠ "abstract" ∧ x ≠ "native" ∧ tag.toList <:+: x.toList) ∧
          (tag.toList <:+: m.superCall.toList ↔ tag.toList <:+: m.name.toList) := by
  refine ⟨by decide, fun m tag hname h => ⟨_, signature_eq_ok hname, ?_, ?_⟩⟩
  · rw [String.toList_ofList]
    exact h.infix_signatureChars_iff
  · rw [superCall, String.toList_ofList]
    exact h.infix_superCallChars_iff

/-- A modifier that is left out brings nothing along; an exception type does, but to the signature
    alone. -/
theorem captured_iff_exception :
    let m : Method := ⟨"put", "void", [], ["abstract"], ["Exc", "NoBODY"], "T"⟩
    (m.name ≠ "" ∧ Foreign "BODY" ∧ Foreign "ab") ∧
      ∃ sig, m.signature = .ok sig ∧ "BODY".toList <:+: sig.toList ∧
        ¬ "BODY".toList <:+: m.superCall.toList ∧ ¬ "ab".toList <:+: sig.toList := by
  intro m
  obtain ⟨-, hcaptured⟩ := captured_iff
  obtain ⟨sig, hsig, hbody, hcall⟩ := hcaptured m "BODY" (by decide) (by decide)
  obtain ⟨sig', hsig', hab, -⟩ := hcaptured m "ab" (by decide) (by decide)
  obtain rfl : sig = sig' := Except.ok.inj (hsig.symm.trans hsig')
  have hin : "BODY".toList <:+: "NoBODY".toList := occurs_iff.mp (by decide)
  have hput : ¬ "BODY".toList <:+: "put".toList := fun h => nomatch occurs_iff.mpr h
  refine ⟨⟨by decide, by decide, by decide⟩, sig, hsig, ?_, ?_, ?_⟩
  · exact hbody.mpr (.inr (.inr (.inr (.inl ⟨"NoBODY", by decide, hin⟩))))
  · exact fun h => hput (hcall.mp h)
  · intro h
    have hparts := hab.mp h
    simp [m, ← occurs_iff, occurs] at hparts

end Method

end Splice
