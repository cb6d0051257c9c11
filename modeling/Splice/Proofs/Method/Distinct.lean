/-
  A signature tells its method.

  A signature is one flat text, put together from a name, a return type and three lists of any
  length.  If no part of the method contains a space, a comma or a parenthesis, nothing is lost in
  it but the modifiers that are left out: two methods with the same signature agree in all the rest
  (`signature_tells`).  The text is read back in three steps, each of them at a character that no
  part contains:

      protected final int put(Key p0, int p1) throws E, F
      └──────────┬──────────┘ └─────┬──────┘ └─────┬─────┘
            words before          inside        behind

  1. **Cuts** — the parentheses cut the text in one way only (`Parenthesized.unique`), and a row of
     texts is got back from what joins it (`separated_inj`).

  2. **Before the parentheses** — a row of words with one space between any two.  The last of them
     is the name and the one before it the return type, so that it does not matter what they are:
     a method may be named like a modifier (`leadingWords_inj`).

  3. **Inside** — a parameter is its type up to the space, and the list is empty exactly if there
     are no parameters (`parameters_inj`).

  4. **Behind** — nothing, or the exception types behind a word of their own (`exceptions_inj`).
-/
import Splice.Proofs.Method.Signature

namespace Splice

namespace Text

variable {p t : List Char} {ss : List (List Char)}

/-- A row with one more text behind it. -/
theorem intercalate_concat (p t : List Char) (hss : ss ≠ []) :
    List.intercalate p (ss ++ [t]) = List.intercalate p ss ++ (p ++ t) := by
  induction ss, hss using List.recNeNil with
  | singleton u =>
    show List.intercalate p (u :: [t]) = _
    rw [intercalate_cons p u (List.cons_ne_nil t []), List.intercalate_singleton,
      List.intercalate_singleton]
  | cons u ss hss ih =>
    have hrest : ss ++ [t] ≠ [] := List.append_ne_nil_of_left_ne_nil hss [t]
    rw [List.cons_append, intercalate_cons p u hrest, ih, intercalate_cons p u hss]
    simp only [List.append_assoc]

end Text

namespace Method

open Text

variable {m n : Method} {c : Char} {q : List Char} {ss ts : List (List Char)}

/-! ## Cuts -/

/-- A row is got back from what joins it, if no text of the row contains the character the separator
    begins with. -/
theorem separated_inj (hss : ss ≠ []) (hts : ts ≠ []) (hs : ∀ t ∈ ss, c ∉ t) (ht : ∀ t ∈ ts, c ∉ t)
    (h : separated (c :: q) ss = separated (c :: q) ts) : ss = ts := by
  rw [separated_eq_intercalate, separated_eq_intercalate] at h
  have hpieces : Pieces (c :: q) (List.intercalate (c :: q) ss) ss := pieces_intercalate hss hs
  have hpieces' : Pieces (c :: q) (List.intercalate (c :: q) ts) ts := pieces_intercalate hts ht
  rw [← h] at hpieces'
  exact hpieces.unique hpieces'

/-- Texts are the same if their characters are. -/
theorem map_toList_inj {xs ys : List String} :
    xs.map String.toList = ys.map String.toList ↔ xs = ys :=
  List.map_inj_right fun _ _ => String.toList_inj.mp

/-- Every part of a method that stands in its signature or is left out of it. -/
def texts (m : Method) : List String := m.parts ++ m.exceptions

/-- The parts of a method contain nothing of what a signature puts between them. -/
def PlainTexts (m : Method) : Prop := ∀ s ∈ m.texts, Avoids s [' ', ',', '(', ')']

instance (m : Method) : Decidable m.PlainTexts := List.decidableBAll _ m.texts

theorem PlainTexts.part (h : m.PlainTexts) (hc : c ∈ [' ', ',', '(', ')']) :
    ∀ s ∈ m.parts, c ∉ s.toList :=
  fun s hs => h s (List.mem_append_left _ hs) c hc

theorem PlainTexts.exception (h : m.PlainTexts) (hc : c ∈ [' ', ',', '(', ')']) :
    ∀ s ∈ m.exceptions, c ∉ s.toList :=
  fun s hs => h s (List.mem_append_right _ hs) c hc

theorem PlainTexts.parameter (h : m.PlainTexts) (hc : c ∈ [' ', ',', '(', ')']) :
    ∀ s ∈ m.parameters, c ∉ s.toList :=
  (forall_mem_parts_iff.mp (h.part hc)).2.2.2

/-- The signature of such a method is cut at its own parentheses. -/
theorem PlainTexts.parenthesized (h : m.PlainTexts) :
    Parenthesized m.signatureChars (m.heading ++ ' ' :: m.name.toList)
      (separated [',', ' '] m.typedParameters) m.throwsClause :=
  parenthesized_signature (h.part (by decide)) (h.parameter (by decide))

/-! ## Before the parentheses -/

/-- The words before the parentheses: the modifiers, the return type and the name. -/
def leadingWords (m : Method) : List String := m.inheritedModifiers ++ [m.returnType, m.name]

/-- What stands before the parentheses is these words with a space between any two. -/
theorem heading_name_eq_separated (m : Method) :
    m.heading ++ ' ' :: m.name.toList = separated [' '] (m.leadingWords.map String.toList) := by
  have hwords : m.leadingWords.map String.toList =
      (m.inheritedModifiers ++ [m.returnType]).map String.toList ++ [m.name.toList] := by
    simp only [leadingWords, List.map_append, List.map_cons, List.map_nil, List.append_assoc,
      List.cons_append, List.nil_append]
  have hsome : (m.inheritedModifiers ++ [m.returnType]).map String.toList ≠ [] := by simp
  rw [hwords, heading, separated_eq_intercalate, separated_eq_intercalate,
    intercalate_concat [' '] m.name.toList hsome]
  rfl

theorem PlainTexts.leadingWord (h : m.PlainTexts) :
    ∀ t ∈ m.leadingWords.map String.toList, ' ' ∉ t := by
  intro t ht
  obtain ⟨s, hs, rfl⟩ := List.mem_map.mp ht
  obtain ⟨hmodifiers, hreturn, hname, -⟩ := forall_mem_parts_iff.mp (h.part (c := ' ') (by decide))
  rcases List.mem_append.mp hs with hs | hs
  · exact hmodifiers s (List.mem_filter.mp hs).1
  · rcases List.mem_cons.mp hs with rfl | hs
    · exact hreturn
    · obtain rfl := List.mem_singleton.mp hs
      exact hname

/-- The words tell modifiers, return type and name: the last two stand at the end. -/
theorem leadingWords_inj (h : m.leadingWords = n.leadingWords) :
    m.inheritedModifiers = n.inheritedModifiers ∧ m.returnType = n.returnType ∧
      m.name = n.name := by
  obtain ⟨hmodifiers, hlast⟩ := List.append_inj' h rfl
  obtain ⟨hreturn, hname⟩ := List.cons.inj hlast
  exact ⟨hmodifiers, hreturn, List.singleton_inj.mp hname⟩

/-! ## Inside -/

/-- A type is got back from a parameter: it ends where the space is. -/
theorem typedParameters_inj (hm : ∀ p ∈ m.parameters, ' ' ∉ p.toList)
    (hn : ∀ p ∈ n.parameters, ' ' ∉ p.toList) (h : m.typedParameters = n.typedParameters) :
    m.parameters = n.parameters := by
  have hlen : m.parameters.length = n.parameters.length := by
    have hlen := congrArg List.length h
    rwa [typedParameters, typedParameters, List.length_mapIdx, List.length_mapIdx] at hlen
  refine List.ext_getElem hlen fun i hi hi' => ?_
  have hparameter : m.parameters[i].toList ++ ' ' :: parameterName i
      = n.parameters[i].toList ++ ' ' :: parameterName i := by
    have hget : m.typedParameters[i]? = n.typedParameters[i]? := congrArg (·[i]?) h
    simpa only [typedParameters, List.getElem?_mapIdx, List.getElem?_eq_getElem hi,
      List.getElem?_eq_getElem hi', Option.map_some, Option.some.injEq] using hget
  have hspace : ' ' ∉ m.parameters[i].toList := hm _ (List.getElem_mem hi)
  have hspace' : ' ' ∉ n.parameters[i].toList := hn _ (List.getElem_mem hi')
  exact String.toList_inj.mp (append_cons_inj hspace hspace' hparameter).1

/-- Only a method without parameters has nothing between the parentheses. -/
theorem separated_typedParameters_eq_nil_iff (m : Method) :
    separated [',', ' '] m.typedParameters = [] ↔ m.parameters = [] :=
  separated_mapIdx_eq_nil_iff
    (fun _ _ => List.append_ne_nil_of_right_ne_nil _ (List.cons_ne_nil _ _)) _ _

/-- What stands between the parentheses tells the types of the parameters. -/
theorem parameters_inj (hm : m.PlainTexts) (hn : n.PlainTexts)
    (h : separated [',', ' '] m.typedParameters = separated [',', ' '] n.typedParameters) :
    m.parameters = n.parameters := by
  have hempty : m.parameters = [] ↔ n.parameters = [] := by
    rw [← separated_typedParameters_eq_nil_iff m, h, separated_typedParameters_eq_nil_iff n]
  by_cases hnone : m.parameters = []
  · rw [hnone, hempty.mp hnone]
  · have hsome : m.typedParameters ≠ [] := fun hnil => hnone (List.mapIdx_eq_nil_iff.mp hnil)
    have hsome' : n.typedParameters ≠ [] := fun hnil =>
      hnone (hempty.mpr (List.mapIdx_eq_nil_iff.mp hnil))
    have hcomma : ∀ i, ',' ∉ parameterName i := not_mem_parameterName (by decide) (by decide)
    have htypes : ∀ t ∈ m.typedParameters, ',' ∉ t :=
      not_mem_typedParameters (hm.parameter (by decide)) (by decide) hcomma
    have htypes' : ∀ t ∈ n.typedParameters, ',' ∉ t :=
      not_mem_typedParameters (hn.parameter (by decide)) (by decide) hcomma
    exact typedParameters_inj (hm.parameter (by decide)) (hn.parameter (by decide))
      (separated_inj hsome hsome' htypes htypes' h)

/-! ## Behind -/

theorem throwsClause_eq_nil_iff (m : Method) : m.throwsClause = [] ↔ m.exceptions = [] := by
  rw [throwsClause_eq]
  split
  · rename_i hnone
    exact iff_of_true rfl hnone
  · rename_i hsome
    exact iff_of_false (List.append_ne_nil_of_left_ne_nil (by decide) _) hsome

/-- The clause behind the parentheses tells the exception types. -/
theorem exceptions_inj (hm : m.PlainTexts) (hn : n.PlainTexts)
    (h : m.throwsClause = n.throwsClause) : m.exceptions = n.exceptions := by
  have hempty : m.exceptions = [] ↔ n.exceptions = [] := by
    rw [← throwsClause_eq_nil_iff m, h, throwsClause_eq_nil_iff n]
  by_cases hnone : m.exceptions = []
  · rw [hnone, hempty.mp hnone]
  · have hnone' : n.exceptions ≠ [] := fun hnil => hnone (hempty.mpr hnil)
    rw [throwsClause_eq, throwsClause_eq, if_neg hnone, if_neg hnone'] at h
    have hcomma : ∀ {k : Method}, k.PlainTexts →
        ∀ t ∈ k.exceptions.map String.toList, ',' ∉ t := by
      intro k hk t ht
      obtain ⟨s, hs, rfl⟩ := List.mem_map.mp ht
      exact hk.exception (by decide) s hs
    exact map_toList_inj.mp (separated_inj (fun hnil => hnone (List.map_eq_nil_iff.mp hnil))
      (fun hnil => hnone' (List.map_eq_nil_iff.mp hnil)) (hcomma hm) (hcomma hn)
      (List.append_cancel_left h))

/-! ## The whole -/

/-- What a signature says of a method: all of it but the modifiers `abstract` and `native`. -/
structure SaysAlike (m n : Method) : Prop where
  name : m.name = n.name
  returnType : m.returnType = n.returnType
  parameters : m.parameters = n.parameters
  exceptions : m.exceptions = n.exceptions
  modifiers : m.modifiers.filter (· ∉ ["abstract", "native"]) =
    n.modifiers.filter (· ∉ ["abstract", "native"])

theorem inheritedModifiers_eq (m : Method) :
    m.inheritedModifiers = m.modifiers.filter (· ∉ ["abstract", "native"]) := by
  refine List.filter_congr fun s _ => ?_
  simp [bound, beq_eq_decide]

theorem SaysAlike.signatureChars_eq (h : SaysAlike m n) : m.signatureChars = n.signatureChars := by
  have hmodifiers : m.inheritedModifiers = n.inheritedModifiers := by
    rw [inheritedModifiers_eq, h.modifiers, inheritedModifiers_eq]
  have htyped : m.typedParameters = n.typedParameters := by
    rw [typedParameters, h.parameters, typedParameters]
  have hthrows : m.throwsClause = n.throwsClause := by
    rw [throwsClause_eq, h.exceptions, throwsClause_eq]
  rw [signatureChars, hmodifiers, h.returnType, h.name, htyped, hthrows, signatureChars]

theorem saysAlike_of_signatureChars (hm : m.PlainTexts) (hn : n.PlainTexts)
    (h : m.signatureChars = n.signatureChars) : SaysAlike m n := by
  have hcut := hm.parenthesized
  rw [h] at hcut
  obtain ⟨hbefore, hinside, hbehind⟩ := hcut.unique hn.parenthesized
  rw [heading_name_eq_separated, heading_name_eq_separated] at hbefore
  have hwords : m.leadingWords = n.leadingWords :=
    map_toList_inj.mp (separated_inj (by simp [leadingWords]) (by simp [leadingWords])
      hm.leadingWord hn.leadingWord hbefore)
  obtain ⟨hmodifiers, hreturn, hname⟩ := leadingWords_inj hwords
  exact
    { name := hname
      returnType := hreturn
      parameters := parameters_inj hm hn hinside
      exceptions := exceptions_inj hm hn hbehind
      modifiers := by rw [← inheritedModifiers_eq, hmodifiers, inheritedModifiers_eq] }

/-- Two methods with a name have a signature each, and it is the same exactly if the methods are,
    apart from the modifiers that are left out of it. -/
theorem signature_tells (m n : Method) (hm : m.name ≠ "") (hn : n.name ≠ "")
    (hplain : m.PlainTexts) (hplain' : n.PlainTexts) :
    ∃ s t, m.signature = .ok s ∧ n.signature = .ok t ∧ (s = t ↔ SaysAlike m n) := by
  refine ⟨_, _, signature_eq_ok hm, signature_eq_ok hn, ?_⟩
  rw [String.ofList_inj]
  exact ⟨saysAlike_of_signatureChars hplain hplain', SaysAlike.signatureChars_eq⟩

/-- Words that stand for themselves elsewhere as the name and the return type, modifiers that are
    left out, and an exception type in the place of a parameter. -/
theorem signature_tells_throws :
    let m : Method := ⟨"throws", "final", ["int", "Key"], ["public", "abstract"], ["E"], "T"⟩
    let n : Method := ⟨"throws", "final", ["int", "Key"], ["native", "public"], ["E"], "U"⟩
    let o : Method := ⟨"throws", "final", ["int", "Key", "E"], ["public", "abstract"], [], "T"⟩
    (m.name ≠ "" ∧ n.name ≠ "" ∧ o.name ≠ "" ∧ m.PlainTexts ∧ n.PlainTexts ∧ o.PlainTexts) ∧
      m.signature = n.signature ∧ m.signature ≠ o.signature := by
  intro m n o
  have hm : m.PlainTexts := by decide
  have hn : n.PlainTexts := by decide
  have ho : o.PlainTexts := by decide
  refine ⟨⟨by decide, by decide, by decide, hm, hn, ho⟩, ?_, ?_⟩
  · obtain ⟨s, t, hs, ht, htells⟩ := signature_tells m n (by decide) (by decide) hm hn
    have halike : SaysAlike m n := ⟨rfl, rfl, rfl, rfl, by decide⟩
    rw [hs, ht, htells.mpr halike]
  · obtain ⟨s, t, hs, ht, htells⟩ := signature_tells m o (by decide) (by decide) hm ho
    rw [hs, ht]
    intro heq
    have hparameters := (htells.mp (Except.ok.inj heq)).parameters
    exact absurd hparameters (by decide)

end Method

end Splice
