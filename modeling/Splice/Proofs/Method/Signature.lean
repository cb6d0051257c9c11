/-
  Reading the two texts of a method back.

  The signature of a method and the call of it are written apart from each other, and yet each
  parameter has to have the same name in both:

      public int put(Key p0, int p1) throws E          return super.put(p0, p1);
                     └──────┬──────┘                                    └──┬─┘
                   types and names                                       names

  1. **Parentheses** — `Parenthesized` cuts a text at its first opening parenthesis and at the
     closing one that comes next; there is only one such cut (`Parenthesized.unique`).

  2. **Characters** — what is not in a list that has been joined (`not_mem_separated`), and what is
     not in the name of a parameter (`not_mem_parameterName`), so that nothing the texts are joined
     with is taken for a part of one.  No two names are alike (`nodup_arguments`).

  3. **Both texts** — if the parts of a method contain no parenthesis, both texts are cut as they
     were written (`parenthesized_signature`, `parenthesized_superCall`), and if they contain no
     comma, what stands between the parentheses falls apart into what was joined there
     (`namesAlike`).

  4. **Statements** — the call is a return statement unless nothing is returned
     (`isReturn_superCallChars_iff`).
-/
import Splice.Method.Signature
import Splice.Proofs.Template.Pieces

namespace Splice

namespace Text

variable {s t u v r a b : List Char} {c : Char}

/-- None of the characters stands in the text. -/
def Avoids (s : String) (cs : List Char) : Prop := ∀ c ∈ cs, c ∉ s.toList

instance (s : String) (cs : List Char) : Decidable (Avoids s cs) := List.decidableBAll _ cs

/-- A text is cut in one way only at the first place where a character stands. -/
theorem append_cons_inj (hu : c ∉ u) (hv : c ∉ v) (h : u ++ c :: s = v ++ c :: t) :
    u = v ∧ s = t := by
  have hfirst : FirstAt [c] (u ++ c :: s) u.length := firstAt_append hu
  have hfirst' : FirstAt [c] (u ++ c :: s) v.length := h ▸ firstAt_append hv
  obtain ⟨huv, hst⟩ := List.append_inj h (hfirst.unique hfirst')
  exact ⟨huv, (List.cons.inj hst).2⟩

/-! ## Parentheses -/

/-- The text `s` cut at its first opening parenthesis and at the next closing one. -/
structure Parenthesized (s before inside after : List Char) : Prop where
  joined : s = before ++ '(' :: (inside ++ ')' :: after)
  opens : '(' ∉ before
  closes : ')' ∉ inside

theorem Parenthesized.unique (h : Parenthesized s u a t) (h' : Parenthesized s v b r) :
    u = v ∧ a = b ∧ t = r := by
  obtain ⟨huv, hrest⟩ := append_cons_inj h.opens h'.opens (h.joined.symm.trans h'.joined)
  exact ⟨huv, append_cons_inj h.closes h'.closes hrest⟩

end Text

/-! ## Characters -/

namespace Method

open Text

variable {m : Method} {c : Char} {i j : Nat} {sep : List Char} {ss : List (List Char)}

theorem separated_eq_intercalate (sep : List Char) (ss : List (List Char)) :
    separated sep ss = List.intercalate sep ss := by
  induction ss with
  | nil => rfl
  | cons t ss ih =>
    cases ss with
    | nil => exact List.intercalate_singleton.symm
    | cons u ss => rw [separated, ih, List.intercalate_cons_cons]

/-- A character that is neither in the separator nor in what it separates is not in the whole. -/
theorem not_mem_separated (hsep : c ∉ sep) (h : ∀ t ∈ ss, c ∉ t) : c ∉ separated sep ss := by
  induction ss with
  | nil => exact List.not_mem_nil
  | cons t ss ih =>
    obtain ⟨ht, hss⟩ := List.forall_mem_cons.mp h
    cases ss with
    | nil => exact ht
    | cons u ss =>
      intro hmem
      rcases List.mem_append.mp hmem with hmem | hmem
      · exact (List.mem_append.mp hmem).elim ht hsep
      · exact ih hss hmem

/-- If each parameter is written as something, only a list without parameters is written as
    nothing. -/
theorem separated_mapIdx_eq_nil_iff {f : Nat → String → List Char} (hf : ∀ i p, f i p ≠ [])
    (sep : List Char) (ps : List String) : separated sep (ps.mapIdx f) = [] ↔ ps = [] := by
  cases ps with
  | nil => exact iff_of_true rfl rfl
  | cons p ps =>
    refine iff_of_false (fun hnil => ?_) (List.cons_ne_nil p ps)
    have hfirst : f 0 p ∈ (p :: ps).mapIdx f := by
      rw [List.mapIdx_cons]
      exact List.mem_cons_self
    have hin : f 0 p <:+: separated sep ((p :: ps).mapIdx f) := by
      rw [separated_eq_intercalate]
      exact infix_intercalate sep hfirst
    rw [hnil] at hin
    exact hf 0 p (List.infix_nil.mp hin)

/-- A name is the letter `p` and digits. -/
theorem not_mem_parameterName (hp : c ≠ 'p') (hdigit : c.isDigit = false) (i : Nat) :
    c ∉ parameterName i := by
  intro h
  rcases List.mem_cons.mp h with rfl | h
  · exact hp rfl
  · have htrue := Nat.isDigit_of_mem_toDigits (by decide) (by decide) h
    exact absurd (htrue.symm.trans hdigit) (by decide)

/-- Two places do not share a name. -/
theorem parameterName_injective (h : parameterName i = parameterName j) : i = j := by
  have hdigits : Nat.toDigits 10 i = Nat.toDigits 10 j := (List.cons.inj h).2
  calc i = Nat.ofDigitChars 10 (Nat.toDigits 10 i) 0 := Nat.ofDigitChars_ten_toDigits.symm
    _ = Nat.ofDigitChars 10 (Nat.toDigits 10 j) 0 := by rw [hdigits]
    _ = j := Nat.ofDigitChars_ten_toDigits

theorem length_arguments (m : Method) : m.arguments.length = m.parameters.length :=
  List.length_mapIdx

theorem mem_arguments {n : List Char} (h : n ∈ m.arguments) : ∃ i, n = parameterName i := by
  obtain ⟨i, -, rfl⟩ := List.mem_mapIdx.mp h
  exact ⟨i, rfl⟩

theorem nodup_arguments (m : Method) : m.arguments.Nodup := by
  rw [List.nodup_iff_pairwise_ne, List.pairwise_iff_getElem]
  intro i j hi hj hlt heq
  simp only [arguments, List.getElem_mapIdx] at heq
  have hij := parameterName_injective heq
  omega

/-- A parameter in a signature is its type, a space, and its name in the call. -/
theorem typedParameters_eq_zipWith (m : Method) :
    m.typedParameters = List.zipWith (fun t n => t.toList ++ ' ' :: n) m.parameters m.arguments := by
  refine List.ext_getElem ?_ fun i h₁ h₂ => ?_
  · rw [List.length_zipWith, length_arguments, Nat.min_self]
    exact List.length_mapIdx
  · simp only [typedParameters, arguments, List.getElem_mapIdx, List.getElem_zipWith]

/-- A parameter in a signature holds the characters of its type and of its name, and a space. -/
theorem not_mem_typedParameters (htypes : ∀ p ∈ m.parameters, c ∉ p.toList) (hspace : c ≠ ' ')
    (hnames : ∀ i, c ∉ parameterName i) : ∀ t ∈ m.typedParameters, c ∉ t := by
  intro t ht h
  obtain ⟨i, hi, rfl⟩ := List.mem_mapIdx.mp ht
  rcases List.mem_append.mp h with h | h
  · exact htypes m.parameters[i] (List.getElem_mem hi) h
  · exact (List.mem_cons.mp h).elim hspace (hnames i)

theorem not_mem_arguments (hnames : ∀ i, c ∉ parameterName i) : ∀ n ∈ m.arguments, c ∉ n := by
  intro n hn
  obtain ⟨i, rfl⟩ := mem_arguments hn
  exact hnames i

/-! ## Both texts -/

/-- What stands before the name in a signature: the modifiers and the return type. -/
def heading (m : Method) : List Char :=
  separated [' '] ((m.inheritedModifiers ++ [m.returnType]).map String.toList)

/-- What stands before the name in the call of the overridden method. -/
def callHead (m : Method) : List Char :=
  (if m.returnType = "void" then [] else "return ".toList) ++ "super.".toList

theorem signature_eq_ok (h : m.name ≠ "") : m.signature = .ok (String.ofList m.signatureChars) :=
  if_neg h

theorem not_mem_heading (hspace : c ≠ ' ') (hmodifiers : ∀ s ∈ m.modifiers, c ∉ s.toList)
    (hreturn : c ∉ m.returnType.toList) : c ∉ m.heading := by
  refine not_mem_separated (fun h => hspace (List.mem_singleton.mp h)) fun t ht => ?_
  obtain ⟨s, hs, rfl⟩ := List.mem_map.mp ht
  rcases List.mem_append.mp hs with hs | hs
  · exact hmodifiers s (List.mem_filter.mp hs).1
  · obtain rfl := List.mem_singleton.mp hs
    exact hreturn

theorem not_mem_callHead (h : c ∉ "return super.".toList) : c ∉ m.callHead := by
  unfold callHead
  split
  · exact fun hmem => h (List.mem_append_right "return ".toList hmem)
  · exact h

/-- The clause behind the parentheses is a word of its own and the types behind it, unless there are none. -/
theorem throwsClause_eq (m : Method) : m.throwsClause =
    if m.exceptions = [] then []
    else " throws ".toList ++ separated [',', ' '] (m.exceptions.map String.toList) := by
  unfold throwsClause
  split
  · rename_i hnone
    rw [if_pos hnone]
  · rename_i hsome
    rw [if_neg hsome]

/-- The parts of a method's texts, up to the parenthesis that closes the parameters. -/
def parts (m : Method) : List String := m.modifiers ++ m.returnType :: m.name :: m.parameters

/-- The parts one by one. -/
theorem forall_mem_parts_iff {P : String → Prop} :
    (∀ s ∈ m.parts, P s) ↔
      (∀ s ∈ m.modifiers, P s) ∧ P m.returnType ∧ P m.name ∧ ∀ s ∈ m.parameters, P s := by
  simp only [parts, List.forall_mem_append, List.forall_mem_cons]

/-- The parentheses of a signature are those around the parameters. -/
theorem parenthesized_signature (hopen : ∀ s ∈ m.parts, '(' ∉ s.toList)
    (hclose : ∀ p ∈ m.parameters, ')' ∉ p.toList) :
    Parenthesized m.signatureChars (m.heading ++ ' ' :: m.name.toList)
      (separated [',', ' '] m.typedParameters) m.throwsClause := by
  obtain ⟨hmodifiers, hreturn, hname, -⟩ := forall_mem_parts_iff.mp hopen
  constructor
  · show _ ++ ' ' :: _ ++ '(' :: _ ++ ')' :: _ = _
    simp only [heading, List.append_assoc, List.cons_append]
  · intro hmem
    rcases List.mem_append.mp hmem with hmem | hmem
    · exact not_mem_heading (by decide) hmodifiers hreturn hmem
    · exact (List.mem_cons.mp hmem).elim (by decide) hname
  · have hnames : ∀ i, ')' ∉ parameterName i := not_mem_parameterName (by decide) (by decide)
    exact not_mem_separated (by decide) (not_mem_typedParameters hclose (by decide) hnames)

/-- The parentheses of a call are those around the arguments. -/
theorem parenthesized_superCall (hopen : '(' ∉ m.name.toList) :
    Parenthesized m.superCallChars (m.callHead ++ m.name.toList) (separated [',', ' '] m.arguments)
      [';'] := by
  constructor
  · show _ ++ _ ++ _ ++ '(' :: _ ++ [')', ';'] = _
    simp only [callHead, List.append_assoc, List.cons_append]
  · intro hmem
    exact (List.mem_append.mp hmem).elim (not_mem_callHead (by decide)) hopen
  · have hnames : ∀ i, ')' ∉ parameterName i := not_mem_parameterName (by decide) (by decide)
    exact not_mem_separated (by decide) (not_mem_arguments hnames)

/-- The parameters of a method as its two texts list them: `inside` is the list of the signature,
    `args` that of the call, and `names` are the names of the parameters. -/
structure NamesAlike (m : Method) (inside args : List Char) (names : List (List Char)) : Prop where
  /-- There is a name for each parameter. -/
  length : names.length = m.parameters.length
  /-- No two are alike. -/
  nodup : names.Nodup
  /-- A name ends where a space begins. -/
  spaceless : ∀ n ∈ names, ' ' ∉ n
  /-- The signature lists the types in order, each with the name behind it. -/
  typed : Pieces [',', ' '] inside
    (List.zipWith (fun t n => t.toList ++ ' ' :: n) m.parameters names)
  /-- The call lists the names in the same order. -/
  called : Pieces [',', ' '] args names

/-- Both lists fall apart into what they have been joined from. -/
theorem namesAlike (hsome : m.parameters ≠ []) (h : ∀ p ∈ m.parameters, ',' ∉ p.toList) :
    NamesAlike m (separated [',', ' '] m.typedParameters) (separated [',', ' '] m.arguments)
      m.arguments := by
  have hcomma : ∀ i, ',' ∉ parameterName i := not_mem_parameterName (by decide) (by decide)
  have hspace : ∀ i, ' ' ∉ parameterName i := not_mem_parameterName (by decide) (by decide)
  have htyped : m.typedParameters ≠ [] := fun hnil => hsome (List.mapIdx_eq_nil_iff.mp hnil)
  have hcalled : m.arguments ≠ [] := fun hnil => hsome (List.mapIdx_eq_nil_iff.mp hnil)
  refine ⟨length_arguments m, nodup_arguments m, not_mem_arguments hspace, ?_, ?_⟩
  · rw [← typedParameters_eq_zipWith, separated_eq_intercalate]
    exact pieces_intercalate htyped (not_mem_typedParameters h (by decide) hcomma)
  · rw [separated_eq_intercalate]
    exact pieces_intercalate hcalled (not_mem_arguments hcomma)

/-- The signature of a method and the call of it, cut at their parentheses, call the same method and
    list its parameters under the same names. -/
theorem parameters_named_alike (m : Method) (hname : m.name ≠ "")
    (hparts : ∀ s ∈ m.parts, Avoids s ['(', ')', ',']) :
    ∃ sig callee inside args after,
      m.signature = .ok sig ∧
      Parenthesized sig.toList (m.heading ++ ' ' :: callee) inside after ∧
      Parenthesized m.superCall.toList (m.callHead ++ callee) args [';'] ∧
      callee = m.name.toList ∧
      (inside = [] ↔ m.parameters = []) ∧ (args = [] ↔ m.parameters = []) ∧
      (m.parameters ≠ [] → ∃ names, NamesAlike m inside args names) := by
  have hopen : ∀ s ∈ m.parts, '(' ∉ s.toList := fun s hs => hparts s hs '(' (by simp)
  obtain ⟨-, -, hcallee, -⟩ := forall_mem_parts_iff.mp hopen
  obtain ⟨-, -, -, hparameters⟩ := forall_mem_parts_iff.mp hparts
  have hclose : ∀ p ∈ m.parameters, ')' ∉ p.toList := fun p hp => hparameters p hp ')' (by simp)
  have hcomma : ∀ p ∈ m.parameters, ',' ∉ p.toList := fun p hp => hparameters p hp ',' (by simp)
  refine ⟨String.ofList m.signatureChars, m.name.toList, separated [',', ' '] m.typedParameters,
    separated [',', ' '] m.arguments, m.throwsClause, signature_eq_ok hname, ?_, ?_, rfl, ?_, ?_,
    fun hsome => ⟨m.arguments, namesAlike hsome hcomma⟩⟩
  · rw [String.toList_ofList]
    exact parenthesized_signature hopen hclose
  · rw [superCall, String.toList_ofList]
    exact parenthesized_superCall hcallee
  · exact separated_mapIdx_eq_nil_iff
      (fun _ _ => List.append_ne_nil_of_right_ne_nil _ (List.cons_ne_nil _ _)) _ _
  · exact separated_mapIdx_eq_nil_iff (fun _ _ => List.cons_ne_nil _ _) _ _

/-- With eleven parameters the names go past one digit. -/
theorem parameters_named_alike_eleven :
    let m : Method := { name := "put", parameters := List.replicate 11 "final Key" }
    (m.name ≠ "" ∧ ∀ s ∈ m.parts, Avoids s ['(', ')', ',']) ∧
      ∃ inside names,
        NamesAlike m inside "p0, p1, p2, p3, p4, p5, p6, p7, p8, p9, p10".toList names := by
  intro m
  have hparts : ∀ s ∈ m.parts, Avoids s ['(', ')', ','] := by
    refine forall_mem_parts_iff.mpr ⟨?_, ?_, ?_, fun s hs => ?_⟩
    · simp [m, Avoids]
    · simp [m, Avoids]
    · simp [m, Avoids]
    · obtain rfl := List.eq_of_mem_replicate hs
      simp [Avoids]
  have hcall : Parenthesized m.superCall.toList "super.put".toList
      "p0, p1, p2, p3, p4, p5, p6, p7, p8, p9, p10".toList [';'] :=
    ⟨by decide +kernel, by decide, by decide⟩
  obtain ⟨sig, callee, inside, args, after, -, -, hsup, -, -, -, hnames⟩ :=
    parameters_named_alike m (by decide) hparts
  obtain ⟨-, rfl, -⟩ := hcall.unique hsup
  obtain ⟨names, hnames⟩ := hnames (List.cons_ne_nil _ _)
  exact ⟨⟨by decide, hparts⟩, inside, names, hnames⟩

/-! ## Statements -/

/-- Whether a statement is a return statement: whether its first word is `return`. -/
def isReturn (statement : List Char) : Bool :=
  statement.takeWhile (fun c => c != ' ' && c != ';') == "return".toList

/-- The call of a method is a return statement unless the method returns nothing. -/
theorem isReturn_superCallChars_iff :
    isReturn m.superCallChars = true ↔ m.returnType ≠ "void" := by
  unfold isReturn superCallChars
  split
  · rename_i hvoid
    simp [hvoid]
  · rename_i hreturn
    simp [hreturn]

end Method

end Splice
