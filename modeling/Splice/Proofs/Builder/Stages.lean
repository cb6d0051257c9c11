/-
  What the calls of a builder come to.

  Most calls only fill in a part of the draft.  The ones that can fail, write to the journal or use
  a collaborator are read here as chains of operations: writing an override is resolving, the two
  texts of the writer, and a record (`startingAt_overrideAt`); finishing is putting the body into
  the text of the whole method (`outcome_assemble`, `records_assemble`); applying is finishing and
  handing over (`startingAt_buildAndApply`).  Callers cite these and do not unfold the calls.
-/
import Splice.Builder
import Splice.Proofs.Effect

namespace Splice.Builder

variable {μ ω σ : Type} {i : Insertion μ} {d : Draft μ}

/-! ## Setting out -/

theorem intoNamed_of_some {b : Builder μ ω .fresh} {classes : String → Option μ} {name : String}
    {target : μ} (h : classes name = some target) :
    b.intoNamed classes name = .ok (b.into target) := by
  rw [intoNamed, h]

theorem intoNamed_of_none {b : Builder μ ω .fresh} {classes : String → Option μ} {name : String}
    (h : classes name = none) : b.intoNamed classes name = .error (.moduleNotFound name) := by
  rw [intoNamed, h]

/-! ## Drafts -/

@[simp] theorem draft_start (writer : SignatureWriter ω) :
    (start writer : Builder μ ω .fresh).draft = {} := rfl

@[simp] theorem draft_moveTo {s : Stage} (b : Builder μ ω s) (t : Stage) (d : Draft μ) :
    (b.moveTo t d).draft = d := rfl

@[simp] theorem draft_withConfig (b : Builder μ ω .fresh) (c : Config) :
    (b.withConfig c).draft = b.draft := rfl

@[simp] theorem draft_into (b : Builder μ ω .fresh) (target : μ) :
    (b.into target).draft = { target := some target } := rfl

@[simp] theorem draft_select (b : Builder μ ω .targetSet) (method : String) :
    (b.select method).draft = { b.draft with method := some method } := rfl

@[simp] theorem draft_withBody (b : Builder μ ω .pointSet) (body : String) :
    (b.withBody body).draft = { b.draft with body := some body } := rfl

@[simp] theorem draft_elseCreate (b : Builder μ ω .bodySet) (fullMethod : String) :
    (b.elseCreate fullMethod).draft = { b.draft with fullMethod := some fullMethod } := rfl

@[simp] theorem draft_withOverrideBody (b : Builder μ ω .overrideSet) (body : String) :
    (b.withOverrideBody body).draft = { b.draft with body := some body } := rfl

/-! ## Writing an override -/

/-- The draft of an override once its template is written. -/
def overrideDraft (d : Draft μ) (side : Template.Side) (method template : String) : Draft μ :=
  { d with method := some method, point := some (sidePoint side), fullMethod := some template }

/-- Writing an override: the method is resolved, the writer is asked for the signature and then for
    the super call, and the template is put on record. -/
theorem startingAt_overrideAt [Target μ] {b : Builder μ ω .targetSet} {target : μ}
    (hb : b.draft.target = some target) (side : Template.Side) (method : String) (w : ω) :
    (b.overrideAt side method).startingAt w = (do
      let m ← Target.resolve target method
      let sig ← (b.writer.signature m).startingAt w
      let sup ← (b.writer.superCall m).startingAt sig.2
      let template := Template.override sig.1 sup.1 b.tag side
      Attempt.ofLogged (.write .info ("Creating override " ++ template))
      pure (b.moveTo .overrideSet (overrideDraft b.draft side method template), sup.2)) := by
  rw [overrideAt, hb]
  simp only [Effect.startingAt_bind, Effect.startingAt_ofAttempt, Effect.startingAt_pure,
    bind_assoc, pure_bind]
  rfl

/-- An override whose method is resolved and whose two texts are written. -/
theorem outcome_overrideAt [Target μ] {b : Builder μ ω .targetSet} {target : μ} {m : Method}
    {method sig sup : String} {w w' w'' : ω} (hb : b.draft.target = some target)
    (hm : (Target.resolve target method).outcome = .ok m)
    (hsig : ((b.writer.signature m).startingAt w).outcome = .ok (sig, w'))
    (hsup : ((b.writer.superCall m).startingAt w').outcome = .ok (sup, w''))
    (side : Template.Side) :
    ((b.overrideAt side method).startingAt w).outcome =
      .ok (b.moveTo .overrideSet
        (overrideDraft b.draft side method (Template.override sig sup b.tag side)), w'') := by
  rw [startingAt_overrideAt hb, Attempt.outcome_bind_of_ok hm, Attempt.outcome_bind_of_ok hsig,
    Attempt.outcome_bind_of_ok hsup]
  rfl

/-- With the standard writer only the signature can fail, and nothing is kept between the texts. -/
theorem startingAt_overrideAt_standard [Target μ] {b : Builder μ Unit .targetSet} {target : μ}
    (hw : b.writer = .standard) (hb : b.draft.target = some target) (side : Template.Side)
    (method : String) :
    (b.overrideAt side method).startingAt () = (do
      let m ← Target.resolve target method
      let sig ← Attempt.ofExcept m.signature
      let template := Template.override sig m.superCall b.tag side
      Attempt.ofLogged (.write .info ("Creating override " ++ template))
      pure (b.moveTo .overrideSet (overrideDraft b.draft side method template), ())) := by
  rw [startingAt_overrideAt hb, hw]
  simp only [SignatureWriter.standard, Effect.startingAt_ofAttempt, Effect.startingAt_pure,
    bind_assoc, pure_bind]

/-! ## Finishing -/

/-- The insertion of a complete draft has the body in the text of the whole method. -/
theorem outcome_assemble (h : d.check = .ok i) (tag : String) :
    (assemble d tag).outcome =
      .ok { i with fullMethod := Template.filled i.fullMethod tag i.body } := by
  rw [assemble, h, Attempt.outcome_bind_of_ok (Attempt.outcome_ofExcept _),
    Attempt.outcome_bind_of_ok (Attempt.outcome_ofLogged _), Template.value_fill]
  rfl

/-- All that is put on record is that there was no place for the body. -/
theorem records_assemble (h : d.check = .ok i) (tag : String) :
    (assemble d tag).records = (Template.fill i.fullMethod tag i.body).records := by
  rw [assemble, h, Attempt.records_bind, Attempt.records_ofExcept, Attempt.outcome_ofExcept,
    List.nil_append]
  dsimp only
  rw [Attempt.records_bind, Attempt.records_ofLogged, Attempt.outcome_ofLogged]
  exact List.append_nil _

/-- Applying an insertion is finishing it and handing it over. -/
theorem startingAt_buildAndApply (b : Builder μ ω .complete) (engine : Engine σ μ) (s : σ) :
    (b.buildAndApply engine).startingAt s = b.finalize >>= fun i => (engine i).startingAt s := by
  rw [buildAndApply, Effect.startingAt_bind, Effect.startingAt_ofAttempt, bind_assoc]
  simp only [pure_bind]
  rfl

end Splice.Builder
