/-
  What becomes of the body.

  Finishing a builder puts the body into the text of the whole method.  Either there is a place for
  it, and then it stands in the finished text as a whole; or there is none, and then the text stays
  as it was and this is put on record (`Delivers`).

  Every complete builder delivers the body it was given: that of an insertion at a call
  (`delivers_elseCreate`), and that of an override (`delivers_override`), whose template is written
  with the placeholder that is looked for afterwards.  So an override has a place for the body
  unless the placeholder is empty, whatever its two texts are.
-/
import Splice.Proofs.Builder.Run
import Splice.Proofs.Template

namespace Splice

variable {μ ω : Type}

/-- A draft with all its parts is an insertion with the same parts. -/
theorem Draft.Fits.exists_check {d : Draft μ} (h : d.Fits .complete) :
    ∃ i, d.check = .ok i ∧ d.body = some i.body ∧ d.fullMethod = some i.fullMethod := by
  have hall : ∀ part, d.has part = true := fun part => (h part).mpr (by cases part <;> decide)
  obtain ⟨target, method, point, body, fullMethod⟩ := d
  obtain ⟨t, rfl⟩ := Option.isSome_iff_exists.mp (hall .target)
  obtain ⟨m, rfl⟩ := Option.isSome_iff_exists.mp (hall .method)
  obtain ⟨p, rfl⟩ := Option.isSome_iff_exists.mp (hall .point)
  obtain ⟨b, rfl⟩ := Option.isSome_iff_exists.mp (hall .body)
  obtain ⟨f, rfl⟩ := Option.isSome_iff_exists.mp (hall .fullMethod)
  exact ⟨⟨t, m, p, b, f⟩, rfl, rfl, rfl⟩

/-- A builder with all parts can be finished. -/
theorem Draft.Fits.exists_finalize {b : Builder μ ω .complete} (h : b.draft.Fits .complete) :
    ∃ i, b.finalize.outcome = .ok i := by
  obtain ⟨i, hi, -, -⟩ := h.exists_check
  exact ⟨_, Builder.outcome_assemble hi b.tag⟩

namespace Builder

/-- What finishing the builder `b` makes of the body and of the text it is to be put into. -/
structure Delivers (b : Builder μ ω .complete) (tag template body : String) : Prop where
  /-- That the tag is missing is put on record if the placeholder is empty or does not occur. -/
  reported : b.finalize.records = [Template.tagMissing tag] ↔
    tag = "" ∨ ¬ tag.toList <:+: template.toList
  /-- Otherwise nothing is. -/
  silent : b.finalize.records = [] ↔ ¬ (tag = "" ∨ ¬ tag.toList <:+: template.toList)
  /-- If it is, the text stays as it is. -/
  unchanged : b.finalize.records = [Template.tagMissing tag] →
    ∃ i, b.finalize.outcome = .ok i ∧ i.body = body ∧ i.fullMethod = template
  /-- If it is not, the body stands in the text. -/
  kept : b.finalize.records = [] →
    ∃ i, b.finalize.outcome = .ok i ∧ i.body = body ∧ body.toList <:+: i.fullMethod.toList

/-- Whether there is a place for the body decides both what is recorded and what the text is. -/
theorem delivers_of_check {b : Builder μ ω .complete} {i : Insertion μ}
    (h : b.draft.check = .ok i) : Delivers b b.tag i.fullMethod i.body := by
  have hout : b.finalize.outcome =
      .ok { i with fullMethod := Template.filled i.fullMethod b.tag i.body } :=
    outcome_assemble h b.tag
  have hrecords : b.finalize.records = (Template.fill i.fullMethod b.tag i.body).records :=
    records_assemble h b.tag
  by_cases hholds : Template.holds i.fullMethod b.tag = true
  · rw [Template.records_fill_of_holds hholds] at hrecords
    have hnot : ¬ (b.tag = "" ∨ ¬ b.tag.toList <:+: i.fullMethod.toList) := fun hor =>
      Template.not_holds_iff.mpr hor hholds
    exact
      { reported := iff_of_false (by simp [hrecords]) hnot
        silent := iff_of_true hrecords hnot
        unchanged := fun hmissing => absurd (hrecords.symm.trans hmissing) (by simp)
        kept := fun _ => ⟨_, hout, rfl, Template.infix_filled hholds i.body⟩ }
  · rw [Template.records_fill_of_not_holds hholds] at hrecords
    have hor := Template.not_holds_iff.mp hholds
    exact
      { reported := iff_of_true hrecords hor
        silent := iff_of_false (by simp [hrecords]) (not_not_intro hor)
        unchanged := fun _ => ⟨_, hout, rfl, Template.filled_of_not_holds hholds i.body⟩
        kept := fun hnone => absurd (hrecords.symm.trans hnone) (by simp) }

/-! ## Either way to a complete builder -/

variable [Target μ] {writer : SignatureWriter ω} {w w' : ω} {b : Builder μ ω .complete}
  {body text method : String} {side : Template.Side}

/-- At a call the body is put into the text that is given for the whole method. -/
theorem delivers_elseCreate {r : Run μ .pointSet}
    (h : ((r.andThen (.withBody body)).andThen (.elseCreate text)).LeadsTo writer w b w') :
    Delivers b r.tag text body := by
  have hinv := h.stageInvariant
  obtain ⟨i, hi, hbody, htext⟩ := hinv.fits.exists_check
  obtain ⟨b₁, v₁, h₁, hm⟩ := h.of_andThen
  cases hm
  obtain ⟨b₂, v₂, -, hm⟩ := h₁.of_andThen
  cases hm
  have htag : r.tag = ((b₂.withBody body).elseCreate text).tag := hinv.tag.symm
  have hdelivers := delivers_of_check hi
  rwa [← Option.some.inj hbody, ← Option.some.inj htext, ← htag] at hdelivers

/-- In an override the body is put into the template that has been written, and there is always a
    place for it. -/
theorem delivers_override {r : Run μ .targetSet}
    (h : ((r.andThen (.overrideAt side method)).andThen (.withOverrideBody body)).LeadsTo writer w
      b w') :
    ∃ o : Builder μ ω .overrideSet, (r.andThen (.overrideAt side method)).LeadsTo writer w o w' ∧
      Delivers b r.tag o.template body ∧ (r.tag ≠ "" → b.finalize.records = []) := by
  have hinv := h.stageInvariant
  obtain ⟨i, hi, hbody, htext⟩ := hinv.fits.exists_check
  obtain ⟨o, v, ho, hm⟩ := h.of_andThen
  cases hm
  have htag : r.tag = (o.withOverrideBody body).tag := hinv.tag.symm
  have htemplate : o.template = i.fullMethod := by
    rw [template, show o.draft.fullMethod = some i.fullMethod from htext]
    rfl
  have hdelivers := delivers_of_check hi
  rw [← Option.some.inj hbody, ← htemplate, ← htag] at hdelivers
  refine ⟨o, ho, hdelivers, fun hne => hdelivers.silent.mpr ?_⟩
  -- the template has been written with the placeholder of the run
  obtain ⟨b₁, v₁, h₁, hm⟩ := ho.of_andThen
  have hb₁ : b₁.tag = r.tag := h₁.stageInvariant.tag
  cases hm with
  | overrideAt _ _ _ _ _ _ =>
    rename_i sig sup _ _ _ _
    have hholds := Template.holds_override hne sig sup side
    obtain ⟨hne, hocc⟩ := Template.holds_iff.mp hholds
    rintro (hempty | hnot)
    · exact hne hempty
    · exact hnot (hb₁ ▸ hocc)

end Builder

end Splice
