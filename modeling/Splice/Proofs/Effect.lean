/-
  Effects begun in a state.

  An effect is looked at from outside by beginning it in a state: what comes of it is an operation
  that may fail and keeps a journal, and its answer holds the state it leaves (`startingAt`).  The
  equations below say what this makes of each way to put effects together, so that an effect is
  read as a chain of such operations, and neither the transformer stack nor the pairs in it have to
  be unfolded anywhere else.

  An effect that fails leaves a state too, of which `startingAt` says nothing.  Where that matters
  an effect is looked at through its run (`run_bind_of_ok`, `run_bind_of_error`).
-/
import Splice.Failure

namespace Splice

theorem Logged.records_map {α β : Type} (f : α → β) (x : Logged α) :
    (f <$> x).records = x.records := List.append_nil _

/-- That there is an answer can be seen without looking at it. -/
theorem exists_ok_of_isSome {α : Type} {x : Except Failure α} (h : x.toOption.isSome = true) :
    ∃ a, x = .ok a := by
  cases x with
  | ok a => exact ⟨a, rfl⟩
  | error e => exact nomatch h

theorem toOption_eq_some_iff {ε α : Type} {x : Except ε α} {a : α} :
    x.toOption = some a ↔ x = .ok a := by
  cases x with
  | ok b =>
    constructor
    · intro h
      exact congrArg Except.ok (Option.some.inj h)
    · intro h
      exact congrArg some (Except.ok.inj h)
  | error e => exact iff_of_false nofun nofun

namespace Attempt

variable {α β : Type}

/-- Two operations are the same if they answer the same and write the same. -/
theorem ext {x y : Attempt α} (ho : x.outcome = y.outcome) (hr : x.records = y.records) : x = y :=
  Logged.ext ho hr

theorem ofExcept_ok_bind (a : α) (f : α → Attempt β) : (ofExcept (.ok a) >>= f) = f a := rfl

/-- An operation that answers goes on with its answer. -/
theorem outcome_bind_of_ok {x : Attempt α} {a : α} (hx : x.outcome = .ok a)
    (f : α → Attempt β) : (x >>= f).outcome = (f a).outcome := by
  rw [outcome_bind, hx]
  rfl

/-- An operation that fails ends the whole. -/
theorem outcome_bind_of_error {x : Attempt α} {e : Failure} (hx : x.outcome = .error e)
    (f : α → Attempt β) : (x >>= f).outcome = .error e := by
  rw [outcome_bind, hx]
  rfl

/-- What an operation that answers has written comes before what is written next. -/
theorem records_bind_of_ok {x : Attempt α} {a : α} (hx : x.outcome = .ok a)
    (f : α → Attempt β) : (x >>= f).records = x.records ++ (f a).records := by
  rw [records_bind, hx]

/-- Nothing is written after a failure. -/
theorem records_bind_of_error {x : Attempt α} {e : Failure} (hx : x.outcome = .error e)
    (f : α → Attempt β) : (x >>= f).records = x.records := by
  rw [records_bind, hx]
  exact List.append_nil _

/-- An answer of the whole is an answer of the first operation and one of what goes on with it. -/
theorem outcome_bind_eq_ok_iff {x : Attempt α} {f : α → Attempt β} {r : β} :
    (x >>= f).outcome = .ok r ↔ ∃ a, x.outcome = .ok a ∧ (f a).outcome = .ok r := by
  rw [outcome_bind]
  cases x.outcome with
  | ok a => exact ⟨fun h => ⟨a, rfl, h⟩, fun ⟨_, ha, h⟩ => Except.ok.inj ha ▸ h⟩
  | error e => exact ⟨nofun, nofun⟩

/-- Telling a failure in other words makes no difference to an answer. -/
theorem outcome_withFailure_eq_ok_iff {x : Attempt α} {f : Failure → Failure} {a : α} :
    (x.withFailure f).outcome = .ok a ↔ x.outcome = .ok a := by
  show x.outcome.mapError f = .ok a ↔ x.outcome = .ok a
  cases x.outcome with
  | ok b => exact Iff.rfl
  | error e => exact ⟨nofun, nofun⟩

end Attempt

namespace Effect

variable {σ α β : Type}

theorem outcome_startingAt (x : Effect σ α) (s : σ) :
    (x.startingAt s).outcome = (x.run s).value.1.map (·, (x.run s).value.2) := rfl

theorem records_startingAt (x : Effect σ α) (s : σ) :
    (x.startingAt s).records = (x.run s).records := Logged.records_map ..

theorem startingAt_pure (a : α) (s : σ) : (pure a : Effect σ α).startingAt s = pure (a, s) := rfl

/-- What follows an effect is begun in the state the effect leaves. -/
theorem startingAt_bind (x : Effect σ α) (f : α → Effect σ β) (s : σ) :
    (x >>= f).startingAt s = x.startingAt s >>= fun r => (f r.1).startingAt r.2 := by
  have hrun : (x >>= f).run s = (x.run s >>= fun r => ExceptT.bindCont f r.1 r.2) := rfl
  apply Attempt.ext
  · rw [Attempt.outcome_bind, outcome_startingAt, outcome_startingAt, hrun, Logged.value_bind]
    obtain ⟨r, t⟩ := (x.run s).value
    cases r <;> rfl
  · rw [Attempt.records_bind, outcome_startingAt, records_startingAt, records_startingAt, hrun,
      Logged.records_bind]
    obtain ⟨r, t⟩ := (x.run s).value
    cases r with
    | error e => rfl
    | ok a => exact congrArg _ (records_startingAt (f a) t).symm

/-- An effect and what follows it answer exactly if the first answers, and then the second does in
    the state the first leaves. -/
theorem outcome_bind_eq_ok_iff {x : Effect σ α} {f : α → Effect σ β} {s : σ} {r : β × σ} :
    ((x >>= f).startingAt s).outcome = .ok r ↔
      ∃ a t, (x.startingAt s).outcome = .ok (a, t) ∧ ((f a).startingAt t).outcome = .ok r := by
  rw [startingAt_bind, Attempt.outcome_bind_eq_ok_iff]
  exact ⟨fun ⟨(a, t), h⟩ => ⟨a, t, h⟩, fun ⟨a, t, h⟩ => ⟨(a, t), h⟩⟩

/-- An operation that leaves the state alone. -/
theorem startingAt_ofAttempt (x : Attempt α) (s : σ) :
    (ofAttempt x : Effect σ α).startingAt s = x >>= fun a => pure (a, s) := by
  have hrun : (ofAttempt x : Effect σ α).run s = ((·, s) <$> x.run) := rfl
  apply Attempt.ext
  · rw [Attempt.outcome_bind, outcome_startingAt, hrun]
    show x.outcome.map _ = _
    cases x.outcome <;> rfl
  · rw [Attempt.records_bind, records_startingAt, hrun, Logged.records_map]
    show x.records = _
    cases x.outcome <;> exact (List.append_nil _).symm

/-! ## The state a failure leaves -/

theorem run_ofAttempt (x : Attempt α) (s : σ) :
    (ofAttempt x : Effect σ α).run s = ⟨(x.outcome, s), x.records⟩ :=
  Logged.ext rfl (Logged.records_map ..)

/-- What follows an effect that answers runs in the state the effect leaves. -/
theorem run_bind_of_ok {x : Effect σ α} {a : α} {s s' : σ} (h : (x.run s).value = (.ok a, s'))
    (f : α → Effect σ β) :
    (x >>= f).run s = ⟨((f a).run s').value, (x.run s).records ++ ((f a).run s').records⟩ := by
  have hrun : (x >>= f).run s = (x.run s >>= fun r => ExceptT.bindCont f r.1 r.2) := rfl
  rw [hrun]
  apply Logged.ext
  · rw [Logged.value_bind, h]
    rfl
  · rw [Logged.records_bind, h]
    rfl

/-- An effect that fails leaves its state as that of the whole. -/
theorem run_bind_of_error {x : Effect σ α} {e : Failure} {s s' : σ}
    (h : (x.run s).value = (.error e, s')) (f : α → Effect σ β) :
    (x >>= f).run s = ⟨(.error e, s'), (x.run s).records⟩ := by
  have hrun : (x >>= f).run s = (x.run s >>= fun r => ExceptT.bindCont f r.1 r.2) := rfl
  rw [hrun]
  apply Logged.ext
  · rw [Logged.value_bind, h]
    rfl
  · rw [Logged.records_bind, h]
    exact List.append_nil _

/-- An effect with its answer changed. -/
theorem run_bind_pure (x : Effect σ α) (g : α → β) (s : σ) :
    (x >>= fun a => pure (g a)).run s =
      ⟨((x.run s).value.1.map g, (x.run s).value.2), (x.run s).records⟩ := by
  rcases h : (x.run s).value with ⟨e | a, s'⟩
  · exact run_bind_of_error h _
  · rw [run_bind_of_ok h]
    exact Logged.ext rfl (List.append_nil _)

/-- An answer that was changed is the change of an answer. -/
theorem exists_of_run_bind_pure {x : Effect σ α} {g : α → β} {r : β} {s s' : σ}
    (h : ((x >>= fun a => pure (g a)).run s).value = (.ok r, s')) :
    ∃ a, (x.run s).value = (.ok a, s') ∧ g a = r := by
  rw [run_bind_pure] at h
  rcases hx : (x.run s).value with ⟨e | a, t⟩
  · rw [hx] at h
    exact nomatch h
  · rw [hx] at h
    obtain ⟨hr, rfl⟩ := Prod.mk.inj h
    exact ⟨a, rfl, Except.ok.inj hr⟩

/-- What an effect does to the first of two states. -/
theorem run_onFirst {τ : Type} (x : Effect σ α) (s : σ) (t : τ) :
    x.onFirst.run (s, t) =
      ⟨((x.run s).value.1, ((x.run s).value.2, t)), (x.run s).records⟩ :=
  Logged.ext rfl (Logged.records_map ..)

/-- What an effect does to the second of two states. -/
theorem run_onSecond {τ : Type} (x : Effect τ α) (s : σ) (t : τ) :
    x.onSecond.run (s, t) =
      ⟨((x.run t).value.1, (s, (x.run t).value.2)), (x.run t).records⟩ :=
  Logged.ext rfl (Logged.records_map ..)

end Effect

end Splice
