/-
  The pieces of a template between its placeholders.

  A text with a placeholder in it can be cut in many ways into pieces with the placeholder in
  between: "aaa" is both "" and "a" around "aa", and "a" and "" around it.  Filling uses one of them.

  1. **The first occurrence** — `FirstAt p s n`: of all places in `s` where `p` begins, `n` is the
     first.  A text is replaced in up to there by being left alone (`replaceAll_firstAt`).

  2. **The pieces** — `Pieces p s ss`: each piece reaches up to the first occurrence in what is left,
     and in the last piece there is none.  `pieces_singleton_iff` and `pieces_cons_iff` take the
     list of pieces apart, and all that follows is by induction on it or along the scan: a text has
     pieces (`exists_pieces`), it has them in one way only (`Pieces.unique`), and to replace is to
     put something else between them (`Pieces.replaceAll_eq`).

  3. **Rows of texts** — the other way round, texts that are joined by `p` are the pieces of the
     whole if none of them contains the character `p` begins with (`pieces_intercalate`).  And what
     shares no character with the text between them does not reach from one into the next
     (`infix_intercalate_iff`).

  4. **Templates** — hence what filling comes to (`fill_eq_pieces`): the body stands between the
     pieces of the TEMPLATE, which do not depend on the body, so that nothing in the body is ever
     taken for a placeholder.
-/
import Mathlib.Data.List.Induction
import Mathlib.Logic.ExistsUnique
import Splice.Proofs.Template

namespace Splice

namespace Text

variable {p b q s t r : List Char} {c : Char} {n m : Nat} {ss ts : List (List Char)}

/-! ## The first occurrence -/

/-- The first occurrence of `p` in `s` begins at `n`. -/
def FirstAt (p s : List Char) (n : Nat) : Prop := p <+: s.drop n ∧ ∀ k < n, ¬ p <+: s.drop k

theorem FirstAt.unique (h : FirstAt p s n) (h' : FirstAt p s m) : n = m := by
  rcases Nat.lt_trichotomy n m with hlt | heq | hgt
  · exact absurd h.1 (h'.2 n hlt)
  · exact heq
  · exact absurd h'.1 (h.2 m hgt)

/-- Behind a character at which no occurrence begins the count goes on. -/
theorem firstAt_cons_succ_iff :
    FirstAt p (c :: s) (n + 1) ↔ ¬ p <+: c :: s ∧ FirstAt p s n := by
  constructor
  · rintro ⟨hat, hbefore⟩
    exact ⟨hbefore 0 (Nat.succ_pos n), hat, fun k hk => hbefore (k + 1) (Nat.succ_lt_succ hk)⟩
  · rintro ⟨hskip, hat, hbefore⟩
    refine ⟨hat, fun k hk => ?_⟩
    cases k with
    | zero => exact hskip
    | succ k => exact hbefore k (Nat.lt_of_succ_lt_succ hk)

theorem firstAt_zero (p r : List Char) : FirstAt p (p ++ r) 0 :=
  ⟨List.prefix_append p r, fun k hk => absurd hk (Nat.not_lt_zero k)⟩

/-- Up to the first occurrence a text stays as it is; behind it the scan begins anew. -/
theorem replaceAll_firstAt (b : List Char) (hp : p ≠ [])
    (h : FirstAt p (t ++ (p ++ r)) t.length) :
    replaceAll p b (t ++ (p ++ r)) = t ++ (b ++ replaceAll p b r) := by
  induction t with
  | nil => exact replaceAll_match b r hp
  | cons c t ih =>
    obtain ⟨hskip, hrest⟩ : ¬ p <+: c :: (t ++ (p ++ r)) ∧ FirstAt p (t ++ (p ++ r)) t.length :=
      firstAt_cons_succ_iff.mp h
    rw [List.cons_append, replaceAll_skip b hskip, ih hrest, List.cons_append]

/-- There is no occurrence in what stands before the first one. -/
theorem FirstAt.not_infix (hp : p ≠ []) (h : FirstAt p (t ++ r) t.length) : ¬ p <:+: t := by
  rintro ⟨u, v, rfl⟩
  have hpos : 0 < p.length := List.length_pos_iff.mpr hp
  have hlt : u.length < (u ++ p ++ v).length := by
    simp only [List.length_append]
    omega
  have hat : p <+: (u ++ p ++ v ++ r).drop u.length := by
    rw [List.append_assoc, List.append_assoc, List.drop_left]
    exact List.prefix_append p _
  exact h.2 u.length hlt hat

/-- What begins with a character that a text does not contain stands first behind the text. -/
theorem firstAt_append (hc : c ∉ t) : FirstAt (c :: q) (t ++ (c :: q ++ r)) t.length := by
  induction t with
  | nil => exact firstAt_zero (c :: q) r
  | cons d t ih =>
    rw [List.mem_cons, not_or] at hc
    obtain ⟨hne, hmem⟩ := hc
    have hskip : ¬ c :: q <+: d :: (t ++ (c :: q ++ r)) := fun h =>
      hne (List.cons_prefix_cons.mp h).1
    exact firstAt_cons_succ_iff.mpr ⟨hskip, ih hmem⟩

/-! ## The pieces -/

/-- The pieces of the text `s` around the occurrences of `p`. -/
structure Pieces (p s : List Char) (ss : List (List Char)) : Prop where
  /-- The text is the pieces with `p` between any two. -/
  joined : s = List.intercalate p ss
  /-- Of what is left at a piece that others follow, the first occurrence of `p` begins right behind
      the piece. -/
  first : ∀ before t after, ss = before ++ t :: after → after ≠ [] →
    FirstAt p (List.intercalate p (t :: after)) t.length
  /-- There is a last piece, and `p` does not occur in it. -/
  last : ∃ before t, ss = before ++ [t] ∧ ¬ p <:+: t

theorem Pieces.ne_nil (h : Pieces p s ss) : ss ≠ [] := by
  obtain ⟨before, t, rfl, -⟩ := h.last
  exact List.append_ne_nil_of_right_ne_nil before (List.cons_ne_nil t [])

theorem intercalate_cons (p t : List Char) (hss : ss ≠ []) :
    List.intercalate p (t :: ss) = t ++ (p ++ List.intercalate p ss) := by
  obtain ⟨u, ss, rfl⟩ := List.exists_cons_of_ne_nil hss
  rw [List.intercalate_cons_cons, List.append_assoc]

/-- One piece is the whole text, and there is nothing to replace. -/
theorem pieces_singleton_iff : Pieces p s [t] ↔ s = t ∧ ¬ p <:+: t := by
  constructor
  · intro h
    obtain ⟨before, u, hu, hnot⟩ := h.last
    obtain ⟨-, hut⟩ := List.append_inj' (show [] ++ [t] = before ++ [u] from hu) rfl
    obtain rfl : t = u := List.singleton_inj.mp hut
    exact ⟨h.joined.trans (List.intercalate_singleton), hnot⟩
  · rintro ⟨rfl, hnot⟩
    refine ⟨(List.intercalate_singleton).symm, fun before u after hu hafter => ?_, [], s, rfl, hnot⟩
    -- a piece that others follow is not the only one
    have hlen := congrArg List.length hu
    have hpos := List.length_pos_iff.mpr hafter
    simp only [List.length_cons, List.length_nil, List.length_append] at hlen
    omega

/-- The first of several pieces reaches up to the first occurrence, and the others are the pieces of
    what stands behind it. -/
theorem pieces_cons_iff (hss : ss ≠ []) :
    Pieces p s (t :: ss) ↔
      ∃ r, s = t ++ (p ++ r) ∧ FirstAt p s t.length ∧ Pieces p r ss := by
  constructor
  · intro h
    have hs : s = t ++ (p ++ List.intercalate p ss) := h.joined.trans (intercalate_cons p t hss)
    have hfirst : FirstAt p s t.length := by
      have hat := h.first [] t ss rfl hss
      rwa [← h.joined] at hat
    refine ⟨_, hs, hfirst, rfl, fun before u after hu => ?_, ?_⟩
    · exact h.first (t :: before) u after (congrArg (t :: ·) hu)
    · obtain ⟨before, u, hu, hnot⟩ := h.last
      cases before with
      | nil => exact absurd (List.cons.inj hu).2 hss
      | cons x before => exact ⟨before, u, (List.cons.inj hu).2, hnot⟩
  · rintro ⟨r, hs, hfirst, hr⟩
    have hjoined : s = List.intercalate p (t :: ss) := by
      rw [hs, hr.joined, intercalate_cons p t hss]
    refine ⟨hjoined, fun before u after hu hafter => ?_, ?_⟩
    · cases before with
      | nil =>
        obtain ⟨rfl, rfl⟩ := List.cons.inj hu
        rwa [← hjoined]
      | cons x before => exact hr.first before u after (List.cons.inj hu).2 hafter
    · obtain ⟨before, u, rfl, hnot⟩ := hr.last
      exact ⟨t :: before, u, rfl, hnot⟩

/-- Every text has pieces.  The proof goes along the scan: an occurrence ends an empty piece, and a
    character that is kept belongs to the piece that comes next. -/
theorem exists_pieces (hp : p ≠ []) (s : List Char) : ∃ ss, Pieces p s ss := by
  induction s using scan_induction hp with
  | nil =>
    have hnot : ¬ p <:+: [] := fun h => hp (List.infix_nil.mp h)
    exact ⟨[[]], pieces_singleton_iff.mpr ⟨rfl, hnot⟩⟩
  | found s ih =>
    obtain ⟨ss, hss⟩ := ih
    exact ⟨[] :: ss, (pieces_cons_iff hss.ne_nil).mpr ⟨s, rfl, firstAt_zero p s, hss⟩⟩
  | skip c s hskip ih =>
    obtain ⟨ss, hss⟩ := ih
    obtain ⟨t, ts, rfl⟩ := List.exists_cons_of_ne_nil hss.ne_nil
    by_cases hts : ts = []
    · subst hts
      obtain ⟨rfl, hnot⟩ := pieces_singleton_iff.mp hss
      refine ⟨[c :: s], pieces_singleton_iff.mpr ⟨rfl, ?_⟩⟩
      rw [List.infix_cons_iff, not_or]
      exact ⟨hskip, hnot⟩
    · obtain ⟨r, hs, hfirst, hr⟩ := (pieces_cons_iff hts).mp hss
      refine ⟨(c :: t) :: ts, (pieces_cons_iff hts).mpr ⟨r, ?_, ?_, hr⟩⟩
      · rw [hs, List.cons_append]
      · exact firstAt_cons_succ_iff.mpr ⟨hskip, hfirst⟩

/-- A text with `p` in it has more than one piece. -/
theorem Pieces.two_le_length (h : Pieces p s ss) (hp : p <:+: s) : 2 ≤ ss.length := by
  rcases ss with _ | ⟨t, _ | ⟨u, ss⟩⟩
  · exact absurd rfl h.ne_nil
  · obtain ⟨rfl, hnot⟩ := pieces_singleton_iff.mp h
    exact absurd hp hnot
  · simp only [List.length_cons]
    omega

/-- There are no two ways to cut a text into its pieces. -/
theorem Pieces.unique (h : Pieces p s ss) (h' : Pieces p s ts) : ss = ts := by
  induction ss generalizing s ts with
  | nil => exact absurd rfl h.ne_nil
  | cons t ss ih =>
    obtain ⟨u, ts, rfl⟩ := List.exists_cons_of_ne_nil h'.ne_nil
    by_cases hss : ss = []
    · subst hss
      obtain ⟨rfl, hnot⟩ := pieces_singleton_iff.mp h
      by_cases hts : ts = []
      · subst hts
        obtain ⟨rfl, -⟩ := pieces_singleton_iff.mp h'
        rfl
      · obtain ⟨r, hs, -, -⟩ := (pieces_cons_iff hts).mp h'
        exact absurd ⟨u, r, by rw [hs, List.append_assoc]⟩ hnot
    · obtain ⟨r, hs, hfirst, hr⟩ := (pieces_cons_iff hss).mp h
      by_cases hts : ts = []
      · subst hts
        obtain ⟨rfl, hnot⟩ := pieces_singleton_iff.mp h'
        exact absurd ⟨t, r, by rw [hs, List.append_assoc]⟩ hnot
      · -- both first pieces end at the first occurrence, so that they are one
        obtain ⟨r', hs', hfirst', hr'⟩ := (pieces_cons_iff hts).mp h'
        have hlen : t.length = u.length := hfirst.unique hfirst'
        obtain ⟨rfl, hrest⟩ := List.append_inj (hs.symm.trans hs') hlen
        obtain rfl : r = r' := List.append_cancel_left hrest
        rw [ih hr hr']

/-- To replace is to put something else between the pieces. -/
theorem Pieces.replaceAll_eq (hp : p ≠ []) (h : Pieces p s ss) (b : List Char) :
    replaceAll p b s = List.intercalate b ss := by
  induction ss generalizing s with
  | nil => exact absurd rfl h.ne_nil
  | cons t ss ih =>
    by_cases hss : ss = []
    · subst hss
      obtain ⟨rfl, hnot⟩ := pieces_singleton_iff.mp h
      rw [ replaceAll_of_not_infix b hnot, List.intercalate_singleton]
    · obtain ⟨r, rfl, hfirst, hr⟩ := (pieces_cons_iff hss).mp h
      rw [replaceAll_firstAt b hp hfirst, ih hr, intercalate_cons b t hss]

/-- The placeholder occurs in no piece. -/
theorem Pieces.not_infix_of_mem (hp : p ≠ []) (h : Pieces p s ss) (ht : t ∈ ss) : ¬ p <:+: t := by
  have hss : ss ≠ [] := h.ne_nil
  induction ss, hss using List.recNeNil generalizing s with
  | singleton u =>
    obtain rfl := List.mem_singleton.mp ht
    exact (pieces_singleton_iff.mp h).2
  | cons u ss hss ih =>
    obtain ⟨r, rfl, hfirst, hr⟩ := (pieces_cons_iff hss).mp h
    rcases List.mem_cons.mp ht with rfl | ht
    · exact hfirst.not_infix hp
    · exact ih hr ht

/-! ## Rows of texts -/

/-- Each text of a row stands in what the row is joined to. -/
theorem infix_intercalate (p : List Char) (ht : t ∈ ss) : t <:+: List.intercalate p ss := by
  have hss : ss ≠ [] := List.ne_nil_of_mem ht
  induction ss, hss using List.recNeNil with
  | singleton u =>
    obtain rfl := List.mem_singleton.mp ht
    have hsingle : List.intercalate p [t] = t := List.intercalate_singleton
    exact hsingle.symm ▸ List.infix_rfl
  | cons u ss hss ih =>
    rw [intercalate_cons p u hss]
    rcases List.mem_cons.mp ht with rfl | ht
    · exact (List.prefix_append t _).isInfix
    · have hrest : List.intercalate p ss <:+: u ++ (p ++ List.intercalate p ss) :=
        ⟨u ++ p, [], by simp only [List.append_assoc, List.append_nil]⟩
      exact (ih ht).trans hrest

/-- What shares no character with the text between the pieces stands in one of them. -/
theorem infix_intercalate_iff (hb : b ≠ []) (hd : ∀ c ∈ b, c ∉ p) (hss : ss ≠ []) :
    p <:+: List.intercalate b ss ↔ ∃ t ∈ ss, p <:+: t := by
  induction ss, hss using List.recNeNil with
  | singleton t =>
    simp only [List.intercalate_singleton, List.mem_singleton, exists_eq_left]
  | cons t ss hss ih =>
    rw [intercalate_cons b t hss, infix_append_append_iff hb hd, ih]
    simp only [List.mem_cons, exists_eq_or_imp]

/-- If no text of a row contains the character a placeholder begins with, the row is the pieces of
    what the placeholder joins it to. -/
theorem pieces_intercalate (hss : ss ≠ []) (hc : ∀ t ∈ ss, c ∉ t) :
    Pieces (c :: q) (List.intercalate (c :: q) ss) ss := by
  induction ss, hss using List.recNeNil with
  | singleton t =>
    have hnot : ¬ c :: q <:+: t := fun h =>
      hc t List.mem_cons_self (h.subset List.mem_cons_self)
    exact pieces_singleton_iff.mpr ⟨List.intercalate_singleton, hnot⟩
  | cons t ss hss ih =>
    obtain ⟨ht, hrest⟩ := List.forall_mem_cons.mp hc
    rw [intercalate_cons (c :: q) t hss]
    exact (pieces_cons_iff hss).mpr ⟨_, rfl, firstAt_append ht, ih hrest⟩

end Text

/-! ## Templates -/

namespace Template

/-- A template that has a place for the body is its pieces with the placeholder between them, in one
    way only, and filled it is the same pieces with the body between them.  Any other stays as it
    is, as does any template whose placeholder is replaced by itself. -/
theorem fill_eq_pieces (template tag body : String) :
    (tag = "" ∨ ¬ tag.toList <:+: template.toList → (fill template tag body).value = template) ∧
    (tag ≠ "" → tag.toList <:+: template.toList →
      (∃! ss, Text.Pieces tag.toList template.toList ss) ∧
      ∀ ss, Text.Pieces tag.toList template.toList ss →
        2 ≤ ss.length ∧ (fill template tag body).value.toList = List.intercalate body.toList ss) ∧
    (fill template tag tag).value = template := by
  simp only [value_fill]
  have hne : tag ≠ "" → tag.toList ≠ [] := fun h hnil => h (String.toList_eq_nil_iff.mp hnil)
  have hfilled : ∀ b : String, holds template tag = true → ∀ ss,
      Text.Pieces tag.toList template.toList ss →
      (filled template tag b).toList = List.intercalate b.toList ss := by
    intro b hholds ss hss
    rw [filled, if_pos hholds, String.toList_ofList]
    exact hss.replaceAll_eq (hne (holds_iff.mp hholds).1) b.toList
  refine ⟨fun hmissing => ?_, fun htag hocc => ⟨?_, fun ss hss => ⟨?_, ?_⟩⟩, ?_⟩
  · exact filled_of_not_holds (not_holds_iff.mpr hmissing) body
  · obtain ⟨ss, hss⟩ := Text.exists_pieces (hne htag) template.toList
    exact ⟨ss, hss, fun ts hts => hts.unique hss⟩
  · exact hss.two_le_length hocc
  · exact hfilled body (holds_iff.mpr ⟨htag, hocc⟩) ss hss
  · by_cases hholds : holds template tag = true
    · -- the pieces with the placeholder between them are the template again
      obtain ⟨ss, hss⟩ := Text.exists_pieces (hne (holds_iff.mp hholds).1) template.toList
      rw [← String.toList_inj, hfilled tag hholds ss hss, ← hss.joined]
    · exact filled_of_not_holds hholds tag

/-- A placeholder that overlaps itself, and a body that holds the placeholder. -/
theorem fill_eq_pieces_overlapping :
    ("aa" ≠ "" ∧ "aa".toList <:+: "aaaba".toList) ∧
      Text.Pieces "aa".toList "aaaba".toList [[], "aba".toList] ∧
      (fill "aaaba" "aa" "aab").value.toList = "aab".toList ++ "aba".toList := by
  have hocc : "aa".toList <:+: "aaaba".toList := Text.occurs_iff.mp (by decide)
  have hlast : ¬ "aa".toList <:+: "aba".toList := fun h => nomatch Text.occurs_iff.mpr h
  have hpieces : Text.Pieces "aa".toList "aaaba".toList [[], "aba".toList] :=
    (Text.pieces_cons_iff (List.cons_ne_nil _ _)).mpr
      ⟨"aba".toList, rfl, Text.firstAt_zero "aa".toList "aba".toList,
        Text.pieces_singleton_iff.mpr ⟨rfl, hlast⟩⟩
  obtain ⟨-, hfill, -⟩ := fill_eq_pieces "aaaba" "aa" "aab"
  exact ⟨⟨by decide, hocc⟩, hpieces, ((hfill (by decide) hocc).2 _ hpieces).2⟩

end Template

end Splice
