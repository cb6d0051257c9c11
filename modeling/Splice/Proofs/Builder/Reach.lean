/-
  Whether the body of an override is reached.

  An override consists of two statements, the call of the overridden method and the body, in the
  order that was asked for.  The standard writer writes the call of a method that returns something
  as a return statement.  With the body in front this is what is wanted; behind it the body is text
  that no run of the method comes to:

      void close()  {  log(); super.close();  }        void close()  {  super.close(); log();  }
      int size()  {  log(); return super.size();  }    int size()  {  return super.size(); log();  }

  Three of the four are right.  `afterOverride_reaches_iff` says which methods can be overridden with
  the body behind the call, and `afterOverride_returns_before_body` is the smallest one that cannot.
-/
import Splice.Proofs.Builder.Override
import Splice.Proofs.Method.Signature

namespace Splice.Builder

variable {μ : Type} [Target μ] {target : μ} {method sig : String} {m : Method}

/-- An override by the standard writer with a placeholder that occurs in neither of its texts. -/
theorem override_standard_of_fresh (hm : (Target.resolve target method).outcome = .ok m)
    (hsig : m.signature = .ok sig) (hfresh : ¬ Template.defaultTag.toList <:+: sig.toList)
    (hfresh' : ¬ Template.defaultTag.toList <:+: m.superCall.toList) (side : Template.Side)
    (body : String) :
    ∃ o i,
      ((((start .standard).into target).overrideAt side method).startingAt ()).outcome =
        .ok (o, ()) ∧
      (o.withOverrideBody body).finalize.outcome = .ok i ∧
      i.fullMethod = Template.override sig m.superCall body side := by
  have htarget : ((start .standard : Builder μ Unit .fresh).into target).draft.target =
      some target := rfl
  have hwritten : ((SignatureWriter.standard.signature m).startingAt ()).outcome =
      .ok (sig, ()) := by
    show ((Effect.ofAttempt (.ofExcept m.signature)).startingAt ()).outcome = _
    rw [hsig]
    rfl
  have hcalled : ((SignatureWriter.standard.superCall m).startingAt ()).outcome =
      .ok (m.superCall, ()) := rfl
  refine ⟨_, _, outcome_overrideAt htarget hm hwritten hcalled side,
    outcome_finalize_withOverrideBody htarget side method _ body, ?_⟩
  exact Template.filled_override_of_fresh (by decide) (by decide) (by decide) (by decide) hfresh
    hfresh' body side

/-- With the body behind the call of the overridden method, the statement in front of the body is a
    return statement unless the method returns nothing. -/
theorem afterOverride_reaches_iff (c : Lineage) (method body : String) (m : Method)
    (hm : (Target.resolve c method).outcome = .ok m) (hname : m.name ≠ "")
    (hfresh : ∀ sig, m.signature = .ok sig → ¬ Template.defaultTag.toList <:+: sig.toList)
    (hfresh' : ¬ Template.defaultTag.toList <:+: m.superCall.toList) :
    ∃ sig o i, m.signature = .ok sig ∧
      ((((start .standard).into c).afterOverride method).startingAt ()).outcome = .ok (o, ()) ∧
      (o.withOverrideBody body).finalize.outcome = .ok i ∧
      i.fullMethod = sig ++ " \x7b " ++ m.superCall ++ " " ++ body ++ " \x7d" ∧
      (¬ Method.isReturn m.superCall.toList = true ↔ m.returnType = "void") := by
  have hsig : m.signature = .ok (String.ofList m.signatureChars) := Method.signature_eq_ok hname
  obtain ⟨o, i, ho, hi, hfull⟩ :=
    override_standard_of_fresh hm hsig (hfresh _ hsig) hfresh' .after body
  refine ⟨_, o, i, hsig, ho, hi, ?_, ?_⟩
  · rw [hfull, Template.override_after]
  · rw [Method.superCall, String.toList_ofList, Method.isReturn_superCallChars_iff,
      Decidable.not_not]

/-- A method that returns nothing: its override runs the body. -/
theorem afterOverride_reaches_close :
    let m := (Method.named "close").declaredOn "Target"
    ((Target.resolve (Lineage.overridingPair "close") "close").outcome = .ok m ∧ m.name ≠ "" ∧
      (∀ sig, m.signature = .ok sig → ¬ Template.defaultTag.toList <:+: sig.toList) ∧
      ¬ Template.defaultTag.toList <:+: m.superCall.toList) ∧
    ∃ o i,
      ((((start .standard).into (Lineage.overridingPair "close")).afterOverride "close").startingAt
        ()).outcome = .ok (o, ()) ∧
      (o.withOverrideBody "log();").finalize.outcome = .ok i ∧
      i.fullMethod = "public void close() \x7b super.close(); log(); \x7d" ∧
      ¬ Method.isReturn "super.close();".toList = true := by
  intro m
  have hm : (Target.resolve (Lineage.overridingPair "close") "close").outcome = .ok m := rfl
  have hsig : m.signature = .ok "public void close()" := by
    rw [Method.signature_eq_ok (by decide)]
    exact congrArg Except.ok (by decide +kernel)
  have hsup : m.superCall = "super.close();" := by decide +kernel
  have hfresh : ∀ sig, m.signature = .ok sig → ¬ Template.defaultTag.toList <:+: sig.toList := by
    intro sig h
    obtain rfl := Except.ok.inj (hsig.symm.trans h)
    exact fun hocc => nomatch Text.occurs_iff.mpr hocc
  have hfresh' : ¬ Template.defaultTag.toList <:+: m.superCall.toList := by
    rw [hsup]
    exact fun hocc => nomatch Text.occurs_iff.mpr hocc
  obtain ⟨sig, o, i, hsig', ho, hi, hfull, hreturn⟩ :=
    afterOverride_reaches_iff (Lineage.overridingPair "close") "close" "log();" m hm (by decide)
      hfresh hfresh'
  obtain rfl := Except.ok.inj (hsig.symm.trans hsig')
  rw [hsup] at hfull hreturn
  exact ⟨⟨hm, by decide, hfresh, hfresh'⟩, o, i, ho, hi, hfull, hreturn.mpr rfl⟩

/-- A method that returns something: its override returns before it comes to the body. -/
theorem afterOverride_returns_before_body :
    let c := (Lineage.root "Target").withMethod ((Method.named "size").returning "int")
    ∃ m sig o i, (Target.resolve c "size").outcome = .ok m ∧ m.name ≠ "" ∧
      m.signature = .ok sig ∧ ¬ Template.defaultTag.toList <:+: sig.toList ∧
      ¬ Template.defaultTag.toList <:+: m.superCall.toList ∧
      ((((start .standard).into c).afterOverride "size").startingAt ()).outcome = .ok (o, ()) ∧
      (o.withOverrideBody "log();").finalize.outcome = .ok i ∧
      i.fullMethod = sig ++ " \x7b " ++ m.superCall ++ " log(); \x7d" ∧
      i.fullMethod = "public int size() \x7b return super.size(); log(); \x7d" ∧
      Method.isReturn m.superCall.toList = true := by
  intro c
  let m := ((Method.named "size").returning "int").declaredOn "Target"
  have hm : (Target.resolve c "size").outcome = .ok m := rfl
  have hsig : m.signature = .ok "public int size()" := by
    rw [Method.signature_eq_ok (by decide)]
    exact congrArg Except.ok (by decide +kernel)
  have hsup : m.superCall = "return super.size();" := by decide +kernel
  have hfresh : ¬ Template.defaultTag.toList <:+: "public int size()".toList := fun hocc =>
    nomatch Text.occurs_iff.mpr hocc
  have hfresh' : ¬ Template.defaultTag.toList <:+: m.superCall.toList := by
    rw [hsup]
    exact fun hocc => nomatch Text.occurs_iff.mpr hocc
  obtain ⟨o, i, ho, hi, hfull⟩ := override_standard_of_fresh hm hsig hfresh hfresh' .after "log();"
  have htext : i.fullMethod = "public int size() \x7b return super.size(); log(); \x7d" := by
    rw [hfull, Template.override_after, hsup]
    decide +kernel
  have hreturn : Method.isReturn m.superCall.toList = true := by
    rw [hsup]
    decide
  refine ⟨m, _, o, i, hm, by decide, hsig, hfresh, hfresh', ho, hi, ?_, htext, hreturn⟩
  rw [htext, hsup]
  decide +kernel

end Splice.Builder
