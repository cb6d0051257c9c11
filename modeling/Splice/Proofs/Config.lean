/-
  Every configuration can be used.

  A placeholder that is white space alone is replaced when a configuration is read (`repaired`), and
  every way to a configuration goes through that reading or through the defaults.  So whichever way
  a configuration has come, its placeholder has a character that is not white space (`Usable`): from
  a file that is named (`usable_of_load`), from the nearest file that can be used
  (`usable_of_discover`), and with no file at all (`usable_current`).
-/
import Splice.Config.Discovery
import Splice.Proofs.Effect

namespace Splice.Config

variable {c : Config} {read : Reading} {text path start : String}

/-- The placeholder has a character that is not white space. -/
def Usable (c : Config) : Prop := ∃ x ∈ c.bodyTag.toList, Text.isBlank x = false

theorem usable_iff : c.Usable ↔ Text.allBlank c.bodyTag = false := by
  rw [Usable, Text.allBlank, List.all_eq_false]
  simp only [Bool.not_eq_true]

/-- A placeholder that can be used is not empty. -/
theorem Usable.tag_ne_empty (h : c.Usable) : c.bodyTag ≠ "" := by
  obtain ⟨x, hx, -⟩ := h
  intro hempty
  rw [hempty] at hx
  exact absurd hx List.not_mem_nil

theorem usable_default : ({} : Config).Usable := ⟨'B', by decide, by decide⟩

/-- Repairing a configuration makes it usable. -/
theorem usable_repaired (c : Config) : c.repaired.Usable := by
  rw [repaired]
  split
  · exact usable_default
  · rename_i hblank
    exact usable_iff.mpr (Bool.eq_false_iff.mpr hblank)

/-! ## Every way to a configuration -/

theorem usable_of_parse (h : (parse text).outcome = .ok c) : c.Usable := by
  rw [parse] at h
  cases hd : Toml.decode (ofValue .toml) text with
  | error e =>
    rw [hd] at h
    exact nomatch h
  | ok d =>
    rw [hd] at h
    have hc : d.repaired = c := Except.ok.inj h
    exact hc ▸ usable_repaired d

theorem usable_of_load (h : (load read path).outcome = .ok c) : c.Usable := by
  rw [load] at h
  cases hr : read path with
  | error e =>
    rw [hr] at h
    exact nomatch h
  | ok text =>
    rw [hr] at h
    exact usable_of_parse (Attempt.outcome_withFailure_eq_ok_iff.mp h)

/-- Passing a file over is having no configuration of it. -/
theorem value_tryLoad (read : Reading) (path : String) :
    (tryLoad read path).value =
      (read path).toOption.bind fun text => (parse text).outcome.toOption := by
  rw [tryLoad]
  cases read path with
  | error e => cases e <;> rfl
  | ok text =>
    show _ = (parse text).run.value.toOption
    rw [Logged.value_bind]
    cases (parse text).run.value <;> rfl

theorem usable_of_tryLoad (h : (tryLoad read path).value = some c) : c.Usable := by
  rw [value_tryLoad] at h
  obtain ⟨text, -, hc⟩ := Option.bind_eq_some_iff.mp h
  cases hp : (parse text).outcome with
  | error e =>
    rw [hp] at hc
    exact nomatch hc
  | ok d =>
    rw [hp] at hc
    exact usable_of_parse (Option.some.inj hc ▸ hp)

/-- The first that can be used is one of those that have been tried. -/
theorem usable_of_firstUsable {dirs : List (List Char)}
    (h : (firstUsable read dirs).value = some c) : c.Usable := by
  induction dirs with
  | nil => exact nomatch h
  | cons dir dirs ih =>
    rw [firstUsable, Logged.value_bind] at h
    cases ht : (tryLoad read (fileIn dir)).value with
    | some d =>
      rw [ht] at h
      have hc : d = c := Option.some.inj h
      exact usable_of_tryLoad (hc ▸ ht)
    | none =>
      rw [ht] at h
      exact ih h

theorem usable_of_discover (h : (discover read start).value = some c) : c.Usable :=
  usable_of_firstUsable h

/-- The configuration for a working directory is the one discovered, or else the default one. -/
theorem value_current_ok (read : Reading) (dir : String) :
    (current read (.ok dir)).value = (discover read dir).value.getD {} := by
  rw [current, Logged.value_bind]
  cases (discover read dir).value <;> rfl

/-- Without a working directory it is the default one. -/
theorem value_current_error (read : Reading) (e : OsError) :
    (current read (.error e)).value = {} := rfl

theorem usable_current (read : Reading) (cwd : Except OsError String) :
    (current read cwd).value.Usable := by
  cases cwd with
  | error e => exact usable_default
  | ok dir =>
    rw [value_current_ok]
    cases hd : (discover read dir).value with
    | none => exact usable_default
    | some c => exact usable_of_discover hd

end Splice.Config
