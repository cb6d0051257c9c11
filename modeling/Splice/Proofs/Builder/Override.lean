/-
  What becomes of the texts of an override.

  The two texts a writer gives stand in the template next to the placeholder, and finishing the
  insertion replaces the placeholder wherever it occurs.  The main statement
  (`override_intact_iff`) follows an override through its three calls and says when the finished
  text is the two texts around the body and nothing else: exactly when the placeholder is fresh.
-/
import Splice.Proofs.Builder.Stages
import Splice.Proofs.Template

namespace Splice

namespace Builder

variable {μ ω : Type}

/-- An override that is given its body and finished. -/
theorem outcome_finalize_withOverrideBody {b : Builder μ ω .targetSet} {target : μ}
    (hb : b.draft.target = some target) (side : Template.Side) (method template body : String) :
    ((b.moveTo .overrideSet (overrideDraft b.draft side method template)).withOverrideBody
        body).finalize.outcome =
      .ok ⟨target, method, sidePoint side, body, Template.filled template b.tag body⟩ := by
  refine outcome_assemble (i := ⟨target, method, sidePoint side, body, template⟩) ?_ b.tag
  show Draft.check ⟨b.draft.target, some method, some (sidePoint side), some body,
    some template⟩ = _
  rw [hb]
  rfl

/-! ## Freshness of the placeholder -/

/-- An override comes out as its two texts around the body exactly if the placeholder occurs in
    neither text. -/
theorem override_intact_iff [Target μ] (b : Builder μ ω .fresh) (target : μ)
    (side : Template.Side) (method body sig sup : String) (m : Method) (w w' w'' : ω)
    (hm : (Target.resolve target method).outcome = .ok m)
    (hsig : ((b.writer.signature m).startingAt w).outcome = .ok (sig, w'))
    (hsup : ((b.writer.superCall m).startingAt w').outcome = .ok (sup, w''))
    (htag : b.tag ≠ "") (hspace : ' ' ∉ b.tag.toList) (hopen : b.tag ≠ "\x7b")
    (hclose : b.tag ≠ "\x7d") (hbody : body ≠ b.tag) :
    ∃ o i, (((b.into target).overrideAt side method).startingAt w).outcome = .ok (o, w'') ∧
      (o.withOverrideBody body).finalize.outcome = .ok i ∧
      (i.fullMethod = (match side with
          | .before => sig ++ " \x7b " ++ body ++ " " ++ sup ++ " \x7d"
          | .after => sig ++ " \x7b " ++ sup ++ " " ++ body ++ " \x7d") ↔
        ¬ b.tag.toList <:+: sig.toList ∧ ¬ b.tag.toList <:+: sup.toList) := by
  have htarget : (b.into target).draft.target = some target := rfl
  refine ⟨_, _, outcome_overrideAt htarget hm hsig hsup side,
    outcome_finalize_withOverrideBody htarget side method _ body, ?_⟩
  have hfresh := Template.filled_override_eq_iff htag hspace hopen hclose hbody sig sup side
  cases side with
  | before => rwa [Template.override_before _ _ body] at hfresh
  | after => rwa [Template.override_after _ _ body] at hfresh

/-- A method whose name holds the placeholder: its override does not come out as written. -/
theorem override_not_intact_dropBODY :
    ∃ o i, ((((start .standard).into (Lineage.overridingPair "dropBODY")).overrideAt .before
        "dropBODY").startingAt ()).outcome = .ok (o, ()) ∧
      (o.withOverrideBody "log();").finalize.outcome = .ok i ∧
      i.fullMethod ≠ "public void dropBODY() \x7b log(); super.dropBODY(); \x7d" := by
  let m := (Method.named "dropBODY").declaredOn "Target"
  have hm : (Target.resolve (Lineage.overridingPair "dropBODY") "dropBODY").outcome = .ok m := rfl
  have hsig : String.ofList m.signatureChars = "public void dropBODY()" := by decide +kernel
  have hsup : String.ofList m.superCallChars = "super.dropBODY();" := by decide +kernel
  obtain ⟨o, i, ho, hi, h⟩ := override_intact_iff (start .standard)
    (Lineage.overridingPair "dropBODY") .before "dropBODY" "log();" "public void dropBODY()"
    "super.dropBODY();" m () () () hm (hsig ▸ rfl) (hsup ▸ rfl)
    (by decide) (by decide) (by decide) (by decide) (by decide)
  have hin : "BODY".toList <:+: "public void dropBODY()".toList :=
    ⟨"public void drop".toList, "()".toList, by decide +kernel⟩
  exact ⟨o, i, ho, hi, fun hi => (h.mp hi).1 hin⟩

end Builder

end Splice
