/-
  Accounts of runs that share a writer and an engine.

  Several runs are made one after the other, each from a fresh builder, each any list of calls, and
  each as far as it goes.  They share a writer of two fixed texts, which counts how often it is
  asked, and an engine that records what it is given.  What the two hold afterwards can be read off
  what the calls have answered, and off nothing else.

  1. **Exchanges** — of a call with what it was made on and what became of it one can tell what it
     hands to the engine (`Exchange.handOff?`), what it applies (`Exchange.recorded?`) and whether
     it has written an override (`Exchange.writes`).  `AllTraced` has the exchanges of all runs as
     an index, run by run.

  2. **The two collaborators** — the engine takes what it is given or fails with its text, and the
     writer is not asked before the method is found (`Builder.run_overrideAt_fixed`).

  3. **The accounts** — `Accounts before after xs` says how the exchanges `xs` have changed the
     counts and the list: the list by the summaries of what was applied, in order, and either
     count by the number of overrides that were written.

  4. **One call, one run, all runs** — one call keeps the accounts (`Held.Offers.accounts`), so a
     run does (`Held.Traced.accounts`), and so do all of them (`runAll_accounts`).  A run applies
     one insertion at most, and that at its end (`Held.Traced.filterMap_recorded`).
-/
import Mathlib.Data.List.Basic
import Splice.Proofs.Builder.HandOff

namespace Splice

variable {μ ω σ : Type}

/-! ## Exchanges -/

namespace Exchange

/-- The insertion that the call hands to an engine, or the failure to finish it. -/
def handOff? (x : Exchange ω μ) : Option (Except Failure (Insertion μ)) :=
  match x.held, x.call with
  | .building .complete b, .buildAndApply => some b.finalize.outcome
  | .finalized i, .apply => some (.ok i)
  | _, _ => none

/-- The summary of the insertion that the call has applied. -/
def recorded? [Target μ] (x : Exchange ω μ) : Option Summary :=
  match x.answer, x.handOff? with
  | .reached .applied, some (.ok i) => some i.summary
  | _, _ => none

/-- Whether the call has written an override. -/
def writes (x : Exchange ω μ) : Bool :=
  match x.answer with
  | .reached (.building .overrideSet _) => true
  | _ => false

theorem recorded?_of_handOff?_none [Target μ] {x : Exchange ω μ} (h : x.handOff? = none) :
    x.recorded? = none := by
  rw [recorded?, h]
  split
  · rename_i h'
    exact nomatch h'
  · rfl

/-- The summary of a run that has ended with an insertion applied. -/
def applied? [Target μ] (xs : List (Exchange ω μ)) : Option Summary :=
  xs.getLast?.bind recorded?

/-- What applies nothing at the beginning makes no difference to how a run has ended. -/
theorem applied?_cons_of_none [Target μ] {x : Exchange ω μ} (h : x.recorded? = none)
    (xs : List (Exchange ω μ)) : applied? (x :: xs) = applied? xs := by
  rw [applied?, applied?, List.getLast?_cons]
  cases xs.getLast? with
  | none => exact h
  | some y => rfl

end Exchange

/-- A run to be made: the classes it can name, and its calls. -/
structure Script (μ : Type) where
  classes : String → Option μ
  calls : List (Call μ)

/-- Make the runs one after the other, each from a fresh builder. -/
def runAll [Target μ] (writer : SignatureWriter ω) (engine : Engine σ μ) :
    List (Script μ) → StateT (ω × σ) Logged (List (List (Exchange ω μ)))
  | [] => pure []
  | p :: ps => do
    let held : Held ω μ := .building .fresh (Builder.start writer)
    let answers ← held.run p.classes engine p.calls
    let rest ← runAll writer engine ps
    pure (held.exchanges p.calls answers :: rest)

/-- The runs lead one after the other from one state to another, by these exchanges. -/
inductive AllTraced [Target μ] (writer : SignatureWriter ω) (engine : Engine σ μ) :
    List (Script μ) → ω × σ → List (List (Exchange ω μ)) → ω × σ → Prop
  | nil (st : ω × σ) : AllTraced writer engine [] st [] st
  | cons {p : Script μ} {ps : List (Script μ)} {st st' st'' : ω × σ} {xs : List (Exchange ω μ)}
      {xss : List (List (Exchange ω μ))}
      (h : Held.Traced p.classes engine (.building .fresh (Builder.start writer)) p.calls st xs st')
      (hrest : AllTraced writer engine ps st' xss st'') :
      AllTraced writer engine (p :: ps) st (xs :: xss) st''

/-- That is what making the runs comes to. -/
theorem AllTraced.of_runAll [Target μ] (writer : SignatureWriter ω) (engine : Engine σ μ)
    (scripts : List (Script μ)) (st : ω × σ) :
    let out := ((runAll writer engine scripts).run st).value
    AllTraced writer engine scripts st out.1 out.2 := by
  induction scripts generalizing st with
  | nil => exact .nil st
  | cons p ps ih =>
    obtain ⟨htraced, -⟩ := Held.Traced.of_run p.classes engine
      (.building .fresh (Builder.start writer)) p.calls st
    exact .cons htraced (ih _)

/-! ## The two collaborators -/

section

variable [Target μ] {r : Recorder}

/-- An engine that does not fail adds the summary to its list. -/
theorem Recorder.run_engine_of_none (h : r.failure = none) (i : Insertion μ) :
    (Recorder.engine i).run r = ⟨(.ok (), { r with applied := r.applied ++ [i.summary] }), []⟩ := by
  obtain ⟨applied, failure⟩ := r
  obtain rfl : failure = none := h
  rfl

/-- An engine that fails does nothing else. -/
theorem Recorder.run_engine_of_some {text : String} (h : r.failure = some text) (i : Insertion μ) :
    (Recorder.engine i).run r = ⟨(.error (.other text), r), []⟩ := by
  obtain ⟨applied, failure⟩ := r
  obtain rfl : failure = some text := h
  rfl

/-- A class or a method is not there. -/
inductive Failure.Unresolved : Failure → Prop
  | module (name : String) : Unresolved (.moduleNotFound name)
  | method (className method : String) : Unresolved (.methodNotFound className method)

/-- The counts of the writer after a call that has led to a stage: only to write an override is it
    asked, and then for both texts. -/
def WriterCalls.reaching (n : WriterCalls) (t : Stage) : WriterCalls :=
  if t = .overrideSet then ⟨n.signatures + 1, n.superCalls + 1⟩ else n

/-- The writer is not asked before the method is found, and then for both texts. -/
theorem Builder.run_overrideAt_fixed {b : Builder μ WriterCalls .targetSet} {target : μ}
    {sig sup : String} (hb : b.draft.target = some target) (hw : b.writer = .fixed sig sup)
    (side : Template.Side) (method : String) (n : WriterCalls) :
    (∃ o, ((b.overrideAt side method).run n).value = (.ok o, n.reaching .overrideSet)) ∨
      ((b.overrideAt side method).run n).value =
        (.error (.methodNotFound (Target.name target) method), n) := by
  have hresolve : ((Effect.ofAttempt (Target.resolve target method) :
      Effect WriterCalls Method).run n).value = ((Target.resolve target method).outcome, n) := by
    rw [Effect.run_ofAttempt]
  rw [Target.outcome_resolve] at hresolve
  rw [overrideAt, hb, hw]
  cases hm : (Target.declared? target method).or (lastNamed? method (Target.visible target)) with
  | some m =>
    rw [hm] at hresolve
    refine .inl ⟨b.moveTo .overrideSet
      (overrideDraft b.draft side method (Template.override sig sup b.tag side)), ?_⟩
    rw [Effect.run_bind_of_ok hresolve]
    rfl
  | none =>
    rw [hm] at hresolve
    refine .inr ?_
    rw [Effect.run_bind_of_error hresolve]

/-- A call of a stage leads on, or it fails because a class or a method is not there, and then the
    writer was not asked. -/
theorem Builder.Move.run_fixed {s t : Stage} (m : Move μ s t) {b : Builder μ WriterCalls s}
    {sig sup : String} (hb : b.draft.Fits s) (hw : b.writer = .fixed sig sup) (n : WriterCalls) :
    (∃ b', ((m.perform b).run n).value = (.ok b', n.reaching t)) ∨
      ∃ f, ((m.perform b).run n).value = (.error f, n) ∧ f.Unresolved := by
  cases m with
  | intoNamed classes name =>
    rw [perform]
    cases hc : classes name with
    | none =>
      rw [intoNamed_of_none hc]
      exact .inr ⟨_, rfl, .module name⟩
    | some target =>
      rw [intoNamed_of_some hc]
      exact .inl ⟨_, rfl⟩
  | callAt side callee =>
    cases side with
    | before => exact .inl ⟨_, rfl⟩
    | after => exact .inl ⟨_, rfl⟩
  | overrideAt side method =>
    obtain ⟨target, ht⟩ := Option.isSome_iff_exists.mp ((hb .target).mpr (by decide))
    have hperform : (overrideAt side method).perform b = b.overrideAt side method := by
      cases side with
      | before => rfl
      | after => rfl
    rw [hperform]
    rcases run_overrideAt_fixed ht hw side method n with ⟨o, ho⟩ | hfailed
    · exact .inl ⟨o, ho⟩
    · exact .inr ⟨_, hfailed, .method _ _⟩
  | _ => exact .inl ⟨_, rfl⟩

end

/-! ## The accounts -/

/-- What the exchanges `xs` have made of the counts of the writer and of the list of the engine. -/
structure Accounts [Target μ] (before after : WriterCalls × Recorder)
    (xs : List (Exchange WriterCalls μ)) : Prop where
  /-- The list has grown by what was applied, in order. -/
  applied : after.2.applied = before.2.applied ++ xs.filterMap Exchange.recorded?
  failure : after.2.failure = before.2.failure
  /-- The writer was asked for either text once for each override that was written. -/
  signatures : after.1.signatures = before.1.signatures + xs.countP Exchange.writes
  superCalls : after.1.superCalls = before.1.superCalls + xs.countP Exchange.writes
  /-- An engine that does not fail takes every insertion that is handed to it. -/
  taken : before.2.failure = none → ∀ x ∈ xs, ∀ o, x.handOff? = some o →
    x.answer = .reached .applied ∧ ∃ i, o = .ok i
  /-- An engine that fails answers with its text, as it is. -/
  refused : ∀ text, before.2.failure = some text → ∀ x ∈ xs, x.handOff?.isSome →
    x.answer = .failed (.other text)
  /-- Any other call fails only because a class or a method is not there. -/
  unresolved : ∀ x ∈ xs, x.handOff? = none → ∀ f, x.answer = .failed f → f.Unresolved

namespace Accounts

variable [Target μ] {before between after : WriterCalls × Recorder}
  {xs ys : List (Exchange WriterCalls μ)}

theorem nil (st : WriterCalls × Recorder) : Accounts (μ := μ) st st [] := by
  constructor <;> simp

/-- Accounts of what comes after are added to those of what came before. -/
theorem append (h : Accounts before between xs) (h' : Accounts between after ys) :
    Accounts before after (xs ++ ys) where
  applied := by
    rw [h'.applied, h.applied, List.filterMap_append, List.append_assoc]
  failure := h'.failure.trans h.failure
  signatures := by
    rw [h'.signatures, h.signatures, List.countP_append, Nat.add_assoc]
  superCalls := by
    rw [h'.superCalls, h.superCalls, List.countP_append, Nat.add_assoc]
  taken hnone x hx := by
    rcases List.mem_append.mp hx with hx | hx
    · exact h.taken hnone x hx
    · exact h'.taken (h.failure.trans hnone) x hx
  refused text htext x hx := by
    rcases List.mem_append.mp hx with hx | hx
    · exact h.refused text htext x hx
    · exact h'.refused text (h.failure.trans htext) x hx
  unresolved x hx := by
    rcases List.mem_append.mp hx with hx | hx
    · exact h.unresolved x hx
    · exact h'.unresolved x hx

/-- A call that hands nothing over leaves the engine alone. -/
theorem of_handOff?_none {x : Exchange WriterCalls μ} (hx : x.handOff? = none) {n n' : WriterCalls}
    (hsignatures : n'.signatures = n.signatures + if x.writes then 1 else 0)
    (hsuperCalls : n'.superCalls = n.superCalls + if x.writes then 1 else 0)
    (hfailed : ∀ f, x.answer = .failed f → f.Unresolved) (r : Recorder) :
    Accounts (n, r) (n', r) [x] where
  applied := by
    rw [List.filterMap_cons_none (Exchange.recorded?_of_handOff?_none hx), List.filterMap_nil,
      List.append_nil]
  failure := rfl
  signatures := by rw [List.countP_singleton, hsignatures]
  superCalls := by rw [List.countP_singleton, hsuperCalls]
  taken _ := List.forall_mem_singleton.mpr fun o ho => nomatch hx.symm.trans ho
  refused _ _ := List.forall_mem_singleton.mpr fun ho => by
    rw [hx] at ho
    exact nomatch ho
  unresolved := List.forall_mem_singleton.mpr fun _ => hfailed

/-- An insertion that the engine takes is one more summary in its list. -/
theorem of_taken {x : Exchange WriterCalls μ} {i : Insertion μ} {r : Recorder}
    (hr : r.failure = none) (hx : x.handOff? = some (.ok i)) (hanswer : x.answer = .reached .applied)
    (n : WriterCalls) :
    Accounts (n, r) (n, { r with applied := r.applied ++ [i.summary] }) [x] := by
  have hrecorded : x.recorded? = some i.summary := by
    rw [Exchange.recorded?, hanswer, hx]
  have hwrites : x.writes = false := by
    rw [Exchange.writes, hanswer]
  exact
    { applied := by rw [List.filterMap_cons_some hrecorded, List.filterMap_nil]
      failure := rfl
      signatures := by
        rw [List.countP_singleton, hwrites]
        rfl
      superCalls := by
        rw [List.countP_singleton, hwrites]
        rfl
      taken := fun _ => List.forall_mem_singleton.mpr fun o ho =>
        ⟨hanswer, i, Option.some.inj (ho.symm.trans hx)⟩
      refused := fun _ htext => nomatch hr.symm.trans htext
      unresolved := List.forall_mem_singleton.mpr fun hnone => nomatch hx.symm.trans hnone }

/-- An insertion that the engine refuses leaves it as it is. -/
theorem of_refused {x : Exchange WriterCalls μ} {i : Insertion μ} {r : Recorder} {text : String}
    (hr : r.failure = some text) (hx : x.handOff? = some (.ok i))
    (hanswer : x.answer = .failed (.other text)) (n : WriterCalls) :
    Accounts (n, r) (n, r) [x] := by
  have hrecorded : x.recorded? = none := by
    rw [Exchange.recorded?, hanswer]
  have hwrites : x.writes = false := by
    rw [Exchange.writes, hanswer]
  exact
    { applied := by rw [List.filterMap_cons_none hrecorded, List.filterMap_nil, List.append_nil]
      failure := rfl
      signatures := by
        rw [List.countP_singleton, hwrites]
        rfl
      superCalls := by
        rw [List.countP_singleton, hwrites]
        rfl
      taken := fun hnone => nomatch hr.symm.trans hnone
      refused := fun _ htext => List.forall_mem_singleton.mpr fun _ =>
        Option.some.inj (hr.symm.trans htext) ▸ hanswer
      unresolved := List.forall_mem_singleton.mpr fun hnone => nomatch hx.symm.trans hnone }

/-- A call that hands an insertion over leaves the writer alone. -/
theorem of_handOff?_some {x : Exchange WriterCalls μ} {i : Insertion μ} {r : Recorder}
    (hx : x.handOff? = some (.ok i))
    (hanswer : x.answer = .ofEngine ((Recorder.engine i).run r).value.1) (n : WriterCalls) :
    Accounts (n, r) (n, ((Recorder.engine i).run r).value.2) [x] := by
  cases hr : r.failure with
  | none =>
    rw [Recorder.run_engine_of_none hr] at hanswer ⊢
    exact .of_taken hr hx hanswer n
  | some text =>
    rw [Recorder.run_engine_of_some hr] at hanswer ⊢
    exact .of_refused hr hx hanswer n

/-- If nothing was applied the engine is as it was. -/
theorem unchanged (h : Accounts before after xs) (hx : xs.filterMap Exchange.recorded? = []) :
    after.2 = before.2 := by
  have happlied := h.applied
  have hfailure := h.failure
  rw [hx, List.append_nil] at happlied
  obtain ⟨n, applied, failure⟩ := before
  obtain ⟨n', applied', failure'⟩ := after
  obtain rfl : applied' = applied := happlied
  obtain rfl : failure' = failure := hfailure
  rfl

/-- An engine that fails records nothing. -/
theorem recorded_eq_nil (h : Accounts before after xs) {text : String}
    (htext : before.2.failure = some text) : xs.filterMap Exchange.recorded? = [] := by
  rw [List.filterMap_eq_nil_iff]
  intro x hx
  cases ho : x.handOff? with
  | none => exact Exchange.recorded?_of_handOff?_none ho
  | some o =>
    have hanswer : x.answer = .failed (.other text) :=
      h.refused text htext x hx (Option.isSome_iff_exists.mpr ⟨o, ho⟩)
    rw [Exchange.recorded?, hanswer]

end Accounts

/-! ## One call, one run, all runs -/

namespace Held

variable [Target μ] {classes : String → Option μ} {held : Held WriterCalls μ} {call : Call μ}
  {sig sup : String}

/-- One call keeps the accounts. -/
theorem Offers.accounts {effect : Effect (WriterCalls × Recorder) (Held WriterCalls μ)}
    (h : Offers classes Recorder.engine held call effect) (hs : held.Sound (.fixed sig sup))
    (st : WriterCalls × Recorder) :
    Accounts st (effect.run st).value.2 [⟨held, call, .of (effect.run st).value.1⟩] := by
  obtain ⟨n, r⟩ := st
  cases h with
  | @move s t b call m =>
    rw [Effect.run_bind_pure, Effect.run_onFirst]
    have hnone : ∀ answer, (Exchange.mk (.building s b) call answer).handOff? = none := by
      intro answer
      cases m <;> rfl
    rcases m.run_fixed hs.1 hs.2 n with ⟨b', hb'⟩ | ⟨f, hf, hunresolved⟩
    · rw [hb']
      refine .of_handOff?_none (hnone _) ?_ ?_ ?_ r
      · cases t <;> rfl
      · cases t <;> rfl
      · intro f hf
        exact nomatch hf
    · rw [hf]
      refine .of_handOff?_none (hnone _) rfl rfl ?_ r
      intro f' hf'
      exact Answer.failed.inj hf' ▸ hunresolved
  | @finalize b =>
    obtain ⟨i, hi⟩ := hs.1.exists_finalize
    rw [Effect.run_bind_pure, Effect.run_ofAttempt, hi]
    refine .of_handOff?_none rfl rfl rfl ?_ r
    intro f hf
    exact nomatch hf
  | @buildAndApply b =>
    obtain ⟨i, hi⟩ := hs.1.exists_finalize
    have hsome : ∀ answer, (Exchange.mk (.building .complete b) .buildAndApply answer).handOff? =
        some (.ok i) := by
      intro answer
      exact congrArg some hi
    rw [Effect.run_bind_pure, Effect.run_onSecond, Builder.run_buildAndApply hi]
    exact .of_handOff?_some (hsome _) rfl n
  | apply =>
    rw [Effect.run_bind_pure, Effect.run_onSecond]
    exact .of_handOff?_some rfl rfl n

/-- A call that does not exist hands nothing over. -/
theorem handOff?_of_step_none (h : step classes Recorder.engine held call = none)
    (answer : Answer WriterCalls μ) : (Exchange.mk held call answer).handOff? = none := by
  unfold Exchange.handOff?
  split
  · rename_i b hheld hcall
    obtain rfl : held = .building .complete b := hheld
    obtain rfl : call = .buildAndApply := hcall
    exact nomatch h
  · rename_i i hheld hcall
    obtain rfl : held = .finalized i := hheld
    obtain rfl : call = .apply := hcall
    exact nomatch h
  · rfl

/-- A run keeps the accounts, by induction on its calls. -/
theorem Traced.accounts {calls : List (Call μ)} {st st' : WriterCalls × Recorder}
    {xs : List (Exchange WriterCalls μ)} (h : Traced classes Recorder.engine held calls st xs st')
    (hs : held.Sound (.fixed sig sup)) : Accounts st st' xs := by
  induction h with
  | stopped held st => exact .nil st
  | applied calls st => exact .nil st
  | illegal h _ calls st =>
    refine .of_handOff?_none (handOff?_of_step_none h _) rfl rfl ?_ st.2
    intro f hf
    exact nomatch hf
  | @failed held call effect st st' f h hr calls =>
    have hcall := (Offers.of_step h).accounts hs st
    rw [hr] at hcall
    exact hcall
  | @reached held next call effect st st' st'' calls xs h hr hrest ih =>
    have hoffers := Offers.of_step h
    have hcall := hoffers.accounts hs st
    rw [hr] at hcall
    exact hcall.append (ih (hoffers.sound hs hr))

/-- Once the insertion is applied, no call is answered. -/
theorem Traced.eq_nil {σ : Type} {engine : Engine σ μ} {calls : List (Call μ)} {st st' : ω × σ}
    {xs : List (Exchange ω μ)} (h : Traced classes engine .applied calls st xs st') : xs = [] := by
  cases h with
  | stopped => rfl
  | applied => rfl
  | illegal _ hne => exact absurd rfl hne
  | failed h => exact nomatch h
  | reached h => exact nomatch h

/-- Only at its end does a run apply an insertion. -/
theorem Traced.filterMap_recorded {σ : Type} {engine : Engine σ μ} {held : Held ω μ}
    {calls : List (Call μ)} {st st' : ω × σ} {xs : List (Exchange ω μ)}
    (h : Traced classes engine held calls st xs st') :
    xs.filterMap Exchange.recorded? = (Exchange.applied? xs).toList := by
  induction h with
  | stopped held st => rfl
  | applied calls st => rfl
  | illegal h hne calls st => rfl
  | failed h hr calls => rfl
  | @reached held next call effect st st' st'' calls xs h hr hrest ih =>
    cases next with
    | applied =>
      obtain rfl : xs = [] := hrest.eq_nil
      show _ = (Exchange.mk held call (.reached .applied)).recorded?.toList
      cases hx : (Exchange.mk held call (.reached .applied)).recorded? with
      | none =>
        rw [List.filterMap_cons_none hx]
        rfl
      | some summary =>
        rw [List.filterMap_cons_some hx]
        rfl
    | _ => rw [List.filterMap_cons_none rfl, Exchange.applied?_cons_of_none rfl, ih]

end Held

variable [Target μ]

/-- All runs keep the accounts, by induction on the runs. -/
theorem AllTraced.accounts {sig sup : String} {scripts : List (Script μ)}
    {st st' : WriterCalls × Recorder} {xss : List (List (Exchange WriterCalls μ))}
    (h : AllTraced (.fixed sig sup) Recorder.engine scripts st xss st') :
    Accounts st st' xss.flatten := by
  induction h with
  | nil st => exact .nil st
  | cons h _ ih => exact (h.accounts (Held.sound_start _)).append ih

/-- What is applied is what the runs have ended with. -/
theorem AllTraced.filterMap_recorded {writer : SignatureWriter ω} {engine : Engine σ μ}
    {scripts : List (Script μ)} {st st' : ω × σ} {xss : List (List (Exchange ω μ))}
    (h : AllTraced writer engine scripts st xss st') :
    xss.flatten.filterMap Exchange.recorded? = xss.filterMap Exchange.applied? := by
  induction h with
  | nil st => rfl
  | cons h _ ih =>
    rw [List.flatten_cons, List.filterMap_append, h.filterMap_recorded, ih,
      List.filterMap_eq_flatMap_toList, List.filterMap_eq_flatMap_toList, List.flatMap_cons]

/-- Runs made one after the other, with one writer and one engine: the engine has recorded the
    insertions of the runs that ended with one applied, in the order of the runs, and the writer
    was asked for either text once for each override that was written. -/
theorem runAll_accounts (sig sup : String) (scripts : List (Script μ)) (n : WriterCalls)
    (r : Recorder) :
    let out := ((runAll (.fixed sig sup) Recorder.engine scripts).run (n, r)).value
    AllTraced (.fixed sig sup) Recorder.engine scripts (n, r) out.1 out.2 ∧
      Accounts (n, r) out.2 out.1.flatten ∧
      out.2.2.applied = r.applied ++ out.1.filterMap Exchange.applied? ∧
      ((∀ xs ∈ out.1, Exchange.applied? xs = none) → out.2.2 = r) ∧
      (∀ text, r.failure = some text → out.2.2 = r) := by
  intro out
  have htraced : AllTraced (.fixed sig sup) Recorder.engine scripts (n, r) out.1 out.2 :=
    .of_runAll _ _ scripts (n, r)
  have haccounts : Accounts (n, r) out.2 out.1.flatten := htraced.accounts
  refine ⟨htraced, haccounts, ?_, ?_, ?_⟩
  · rw [haccounts.applied, htraced.filterMap_recorded]
  · intro hnone
    apply haccounts.unchanged
    rw [htraced.filterMap_recorded]
    exact List.filterMap_eq_nil_iff.mpr hnone
  · intro text htext
    exact haccounts.unchanged (haccounts.recorded_eq_nil htext)

/-- An override that is applied, one of a method that is not there, and an insertion that is only
    finished: one summary is recorded and one template written. -/
theorem runAll_accounts_threeRuns :
    let scripts : List (Script Lineage) :=
      [⟨fun _ => none, [.into (.overridingPair "f"), .beforeOverride "f", .body "x",
          .buildAndApply]⟩,
        ⟨fun _ => none, [.into (.overridingPair "f"), .afterOverride "g"]⟩,
        ⟨fun _ => none, [.into (.root "A"), .select "f", .afterCall "g", .body "x",
          .elseCreate "y", .finalize]⟩]
    let out := ((runAll (.fixed "s" "c") Recorder.engine scripts).run ({}, {})).value
    Accounts ({}, {}) out.2 out.1.flatten ∧
      out.2 = (⟨1, 1⟩, ⟨[⟨"Target", "f", "x", "s \x7b x c \x7d", .beforeSuperCall⟩], none⟩) :=
  ⟨(runAll_accounts "s" "c" _ {} {}).2.1, by decide +kernel⟩

end Splice
