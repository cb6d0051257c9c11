/-
  What the JSON text of a plan tells.

  A plan is printed with its strings between texts that are the same for every plan.  The strings
  come from outside and may hold anything, also text that looks like the rest of a plan.  What keeps
  the two apart is the quoting: inside the quotes of a string no quote is written as it is, so that
  the text of a string tells where the string ends.

  1. **Texts that tell where they end** — `SelfDelimiting write`: what follows the text written for
     a value cannot be taken for a part of it.  A row of such texts is one itself, if it is closed
     by a character that none of them begins with (`SelfDelimiting.closedRow`).

  2. **Strings** — a character is written in one of three ways (`Form`).  No two characters are
     written alike, not even up to what follows (`Form.cut`), and none is written with a quote in
     front (`Form.begins`); so a string tells where it ends (`selfDelimiting_quotedChars`).

  3. **Plans** — the point of a plan has a member less where there is no callee, but the kind, which
     comes first, tells whether there is one (`Point.isSome_callee?_eq`).  So a plan tells
     where it ends as well (`selfDelimiting_jsonChars`), and its text tells the plan
     (`render_json_eq_iff`).
-/
import Mathlib.Tactic.SplitIfs
import Splice.Plan.Report

namespace Splice

namespace Text

/-! ## Texts that tell where they end -/

section

variable {α β : Type} {write : α → List Char} {a b : α}

/-- Texts that begin with what is written for two values are the same only if the values are, and
    what follows is. -/
def SelfDelimiting (write : α → List Char) : Prop :=
  ∀ a b r r', write a ++ r = write b ++ r' → a = b ∧ r = r'

theorem SelfDelimiting.eq_iff (h : SelfDelimiting write) : write a = write b ↔ a = b := by
  constructor
  · intro heq
    exact (h a b [] [] (congrArg (· ++ []) heq)).1
  · rintro rfl
    rfl

/-- A fixed text in front does no harm. -/
theorem SelfDelimiting.behind (h : SelfDelimiting write) (before : List Char) :
    SelfDelimiting fun a => before ++ write a := by
  intro a b r r' heq
  rw [List.append_assoc, List.append_assoc] at heq
  exact h a b r r' (List.append_cancel_left heq)

/-- A value may be written by way of another one that tells it. -/
theorem SelfDelimiting.comp (h : SelfDelimiting write) {f : β → α}
    (hf : ∀ a b, f a = f b → a = b) : SelfDelimiting fun b => write (f b) := by
  intro a b r r' heq
  obtain ⟨hab, hr⟩ := h (f a) (f b) r r' heq
  exact ⟨hf a b hab, hr⟩

/-- A row of texts is closed by a character that none of them begins with. -/
theorem SelfDelimiting.closedRow (h : SelfDelimiting write) {e : Char}
    (he : ∀ a, ∃ c s, write a = c :: s ∧ c ≠ e) :
    SelfDelimiting fun as : List α => as.flatMap write ++ [e] := by
  -- the character cannot close one row where the other goes on
  have hon : ∀ a s r r', ¬ e :: r = write a ++ s ++ [e] ++ r' := by
    intro a s r r' heq
    obtain ⟨c, t, hc, hne⟩ := he a
    rw [hc] at heq
    exact hne (List.cons.inj heq).1.symm
  intro as bs r r' heq
  induction as generalizing bs with
  | nil =>
    cases bs with
    | nil => exact ⟨rfl, (List.cons.inj heq).2⟩
    | cons b bs => exact absurd heq (hon b (bs.flatMap write) r r')
  | cons a as ih =>
    cases bs with
    | nil => exact absurd heq.symm (hon a (as.flatMap write) r' r)
    | cons b bs =>
      simp only [List.flatMap_cons, List.append_assoc] at heq ih
      obtain ⟨rfl, hrest⟩ := h a b _ _ heq
      obtain ⟨rfl, hr⟩ := ih bs hrest
      exact ⟨rfl, hr⟩

end

end Text

open Text

/-! ## Strings -/

namespace Json

variable {a b c : Char} {s t r r' : List Char} {m n : Nat}

/-- The characters that are escaped by a letter, each with its letter. -/
def letters : List (Char × Char) :=
  [('"', '"'), ('\\', '\\'), ('\x08', 'b'), ('\x0c', 'f'), ('\n', 'n'), ('\r', 'r'), ('\t', 't')]

/-- The ways to write a character inside the quotes. -/
inductive Form (c : Char) : List Char → Prop where
  | plain (hquote : c ≠ '"') (hescape : c ≠ '\\') : Form c [c]
  | letter {l : Char} (h : (c, l) ∈ letters) : Form c ['\\', l]
  | code (h : c.toNat < 0x20) :
      Form c ['\\', 'u', '0', '0', hexDigit (c.toNat / 16), hexDigit c.toNat]

theorem form_encodeChar (c : Char) : Form c (encodeChar c) := by
  rw [encodeChar]
  split_ifs with hquote hescape hback hfeed hline hreturn htab hcontrol
  · exact .letter (by rw [hquote]; decide)
  · exact .letter (by rw [hescape]; decide)
  · exact .letter (by rw [hback]; decide)
  · exact .letter (by rw [hfeed]; decide)
  · exact .letter (by rw [hline]; decide)
  · exact .letter (by rw [hreturn]; decide)
  · exact .letter (by rw [htab]; decide)
  · exact .code hcontrol
  · exact .plain hquote hescape

/-- No form begins with a quote. -/
theorem Form.begins (h : Form c s) : ∃ d t, s = d :: t ∧ d ≠ '"' := by
  cases h with
  | plain hquote _ => exact ⟨c, [], rfl, hquote⟩
  | letter _ => exact ⟨'\\', _, rfl, by decide⟩
  | code _ => exact ⟨'\\', _, rfl, by decide⟩

/-- The letter tells the character. -/
theorem letters_inj {l : Char} (ha : (a, l) ∈ letters) (hb : (b, l) ∈ letters) : a = b := by
  have hinj : ∀ x ∈ letters, ∀ y ∈ letters, x.2 = y.2 → x.1 = y.1 := by decide
  exact hinj _ ha _ hb rfl

/-- No letter is the one that announces a code. -/
theorem not_mem_letters (c : Char) : (c, 'u') ∉ letters := by
  have hne : ∀ x ∈ letters, x.2 ≠ 'u' := by decide
  exact fun h => hne _ h rfl

theorem hexDigit_inj (h : hexDigit m = hexDigit n) : m % 16 = n % 16 := by
  have hinj : ∀ i < 16, ∀ j < 16, Nat.digitChar i = Nat.digitChar j → i = j := by decide
  exact hinj _ (Nat.mod_lt m (by decide)) _ (Nat.mod_lt n (by decide)) h

/-- Two digits tell the code of a control character. -/
theorem eq_of_hexDigits (ha : a.toNat < 0x20) (hb : b.toNat < 0x20)
    (hhigh : hexDigit (a.toNat / 16) = hexDigit (b.toNat / 16))
    (hlow : hexDigit a.toNat = hexDigit b.toNat) : a = b := by
  have hcode : a.toNat = b.toNat := by
    have := hexDigit_inj hhigh
    have := hexDigit_inj hlow
    omega
  rw [← Char.ofNat_toNat a, hcode, Char.ofNat_toNat]

/-- A form tells the character, and where it ends. -/
theorem Form.cut (h : Form a s) (k : Form b t) (heq : s ++ r = t ++ r') : a = b ∧ r = r' := by
  cases h with
  | plain _ hescape =>
    cases k with
    | plain _ _ => exact List.cons.inj heq
    | letter _ => exact absurd (List.cons.inj heq).1 hescape
    | code _ => exact absurd (List.cons.inj heq).1 hescape
  | @letter l hl =>
    cases k with
    | plain _ hescape => exact absurd (List.cons.inj heq).1.symm hescape
    | letter hm =>
      obtain ⟨rfl, hr⟩ := List.cons.inj (List.cons.inj heq).2
      exact ⟨letters_inj hl hm, hr⟩
    | code _ =>
      obtain ⟨rfl, -⟩ := List.cons.inj (List.cons.inj heq).2
      exact absurd hl (not_mem_letters a)
  | code ha =>
    cases k with
    | plain _ hescape => exact absurd (List.cons.inj heq).1.symm hescape
    | letter hm =>
      obtain ⟨rfl, -⟩ := List.cons.inj (List.cons.inj heq).2
      exact absurd hm (not_mem_letters b)
    | code hb =>
      obtain ⟨hdigits, hr⟩ := List.append_inj heq rfl
      simp only [List.cons.injEq, true_and, and_true] at hdigits
      exact ⟨eq_of_hexDigits ha hb hdigits.1 hdigits.2, hr⟩

theorem selfDelimiting_encodeChar : SelfDelimiting encodeChar :=
  fun a b _ _ heq => (form_encodeChar a).cut (form_encodeChar b) heq

/-- A string tells where it ends. -/
theorem selfDelimiting_quotedChars : SelfDelimiting quotedChars :=
  (selfDelimiting_encodeChar.closedRow fun c => (form_encodeChar c).begins).behind ['"']

end Json

/-! ## Plans -/

/-- The kind of a point tells whether it has a callee. -/
theorem Point.isSome_callee?_eq (p : Point) :
    p.callee?.isSome = (p.kind == "before-call" || p.kind == "after-call") := by
  cases p <;> rfl

theorem Point.eq_of_kind_eq {p q : Point} (h : p.kind = q.kind) (hc : p.callee? = q.callee?) :
    p = q := by
  cases p <;> cases q <;> simp_all [kind, callee?]

namespace Summary

/-- A member tells where it ends. -/
theorem selfDelimiting_jsonMember (key : String) : SelfDelimiting (jsonMember key) :=
  (Json.selfDelimiting_quotedChars.comp fun _ _ => String.toList_inj.mp).behind _

/-- The next member of two plans, behind a text that is the same for both. -/
theorem next_member {before r r' : List Char} {key a b : String}
    (h : before ++ (jsonMember key a ++ r) = before ++ (jsonMember key b ++ r')) :
    a = b ∧ r = r' :=
  selfDelimiting_jsonMember key a b r r' (List.append_cancel_left h)

/-- A point tells where it ends. -/
theorem selfDelimiting_jsonPoint : SelfDelimiting jsonPoint := by
  intro p q r r' heq
  unfold jsonPoint at heq
  simp only [List.append_assoc] at heq
  obtain ⟨hkind, heq⟩ := next_member heq
  have hcallee : p.callee?.isSome = q.callee?.isSome := by
    rw [p.isSome_callee?_eq, hkind, q.isSome_callee?_eq]
  cases hp : p.callee? with
  | none =>
    cases hq : q.callee? with
    | none =>
      rw [hp, hq] at heq
      exact ⟨Point.eq_of_kind_eq hkind (hp.trans hq.symm), heq⟩
    | some d =>
      rw [hp, hq] at hcallee
      exact absurd hcallee Bool.false_ne_true
  | some c =>
    cases hq : q.callee? with
    | none =>
      rw [hp, hq] at hcallee
      exact absurd hcallee.symm Bool.false_ne_true
    | some d =>
      rw [hp, hq] at heq
      simp only [List.append_assoc] at heq
      obtain ⟨rfl, hr⟩ := next_member heq
      exact ⟨Point.eq_of_kind_eq hkind (hp.trans hq.symm), hr⟩

/-- A plan tells where it ends: its members are read off one by one. -/
theorem selfDelimiting_jsonChars : SelfDelimiting jsonChars := by
  intro s t r r' heq
  unfold jsonChars at heq
  simp only [List.append_assoc] at heq
  obtain ⟨hclass, heq⟩ := next_member heq
  obtain ⟨hmethod, heq⟩ := next_member heq
  obtain ⟨hbody, heq⟩ := next_member heq
  obtain ⟨hfull, heq⟩ := next_member heq
  obtain ⟨hpoint, hend⟩ := selfDelimiting_jsonPoint _ _ _ _ (List.append_cancel_left heq)
  obtain ⟨_, _, _, _, _⟩ := s
  obtain ⟨_, _, _, _, _⟩ := t
  subst hclass hmethod hbody hfull hpoint
  exact ⟨rfl, List.append_cancel_left hend⟩

/-- The JSON text of a plan tells the plan.  In particular a point at a call is printed like no
    point at the call of another method, and like no point at the call of the overridden one. -/
theorem render_json_eq_iff (s t : Summary) :
    (s.render .json = t.render .json ↔ s = t) ∧
    ∀ c, s.point.callee? = some c → t.point.callee? ≠ some c →
      jsonPoint s.point ≠ jsonPoint t.point ∧ s.render .json ≠ t.render .json := by
  have hrender : s.render .json = t.render .json ↔ s = t := by
    rw [render, render, String.ofList_inj]
    exact selfDelimiting_jsonChars.eq_iff
  refine ⟨hrender, fun c hs ht => ⟨fun heq => ?_, fun heq => ?_⟩⟩
  · rw [selfDelimiting_jsonPoint.eq_iff.mp heq] at hs
    exact ht hs
  · rw [hrender.mp heq] at hs
    exact ht hs

/-- A body that holds the text between two members is not taken for them. -/
example :
    jsonChars ⟨"C", "m", "b\",\n  \"full_method\": \"f", "g", .beforeSuperCall⟩ ≠
      jsonChars ⟨"C", "m", "b", "f\",\n  \"full_method\": \"g", .beforeSuperCall⟩ := by decide

end Summary

end Splice
