/-
  Files that are no configuration make no difference to the one that is found.

  Discovery passes over a file that cannot be read, and over one that is no configuration, as if it
  were not there; all that is left of it is a record.  `Sifts read read'` takes any such files away,
  and `Logged.Quieter` says what comes of it: the same answer, with fewer records.  Sequencing
  keeps this (`Logged.Quieter.bind`), so that it goes from one file (`Sifts.tryLoad`) to a list of
  directories, by induction on it (`Sifts.firstUsable`), and to the working directory
  (`Sifts.current`).
-/
import Splice.Proofs.Config

namespace Splice

namespace Logged

variable {α β : Type} {x y : Logged α} {f g : α → Logged β}

/-- The same answer, and no records but those of `y`, in their order. -/
structure Quieter (x y : Logged α) : Prop where
  value : x.value = y.value
  records : x.records.Sublist y.records

theorem Quieter.refl (x : Logged α) : Quieter x x := ⟨rfl, List.Sublist.refl x.records⟩

theorem Quieter.bind (h : Quieter x y) (hf : ∀ a, Quieter (f a) (g a)) :
    Quieter (x >>= f) (y >>= g) := by
  have hnext := hf y.value
  constructor
  · rw [value_bind, value_bind, h.value, hnext.value]
  · rw [records_bind, records_bind, h.value]
    exact h.records.append hnext.records

end Logged

namespace Config

variable {read read' : Reading}

/-- The file at a path cannot be read, or what is in it is no configuration. -/
def Spoiled (read : Reading) (path : String) : Prop :=
  ∀ text c, read path = .ok text → Toml.decode (ofValue .toml) text ≠ .ok c

/-- `read'` is `read` with some files taken away that are spoiled. -/
def Sifts (read read' : Reading) : Prop :=
  ∀ path, read' path = read path ∨ (Spoiled read path ∧ read' path = .error .notFound)

/-- A file that is not there is passed over in silence. -/
theorem tryLoad_of_notFound {path : String} (h : read path = .error .notFound) :
    tryLoad read path = pure none := by
  rw [tryLoad, h]

/-- A spoiled file gives no configuration. -/
theorem Spoiled.value_tryLoad {path : String} (h : Spoiled read path) :
    (tryLoad read path).value = none := by
  rw [Config.value_tryLoad]
  cases hread : read path with
  | error e => rfl
  | ok text =>
    have hdecode := h text
    show (parse text).outcome.toOption = none
    rw [parse]
    cases hd : Toml.decode (ofValue .toml) text with
    | error e => rfl
    | ok c => exact absurd hd (hdecode c hread)

/-- One file: a spoiled one leaves a record at most. -/
theorem Sifts.tryLoad (h : Sifts read read') (path : String) :
    Logged.Quieter (tryLoad read' path) (tryLoad read path) := by
  rcases h path with hsame | ⟨hspoiled, hgone⟩
  · have heq : Config.tryLoad read' path = Config.tryLoad read path := by
      rw [Config.tryLoad, Config.tryLoad, hsame]
    rw [heq]
    exact Logged.Quieter.refl _
  · rw [tryLoad_of_notFound hgone]
    exact ⟨hspoiled.value_tryLoad.symm, List.nil_sublist _⟩

/-- Several directories, nearest first. -/
theorem Sifts.firstUsable (h : Sifts read read') (dirs : List (List Char)) :
    Logged.Quieter (firstUsable read' dirs) (firstUsable read dirs) := by
  induction dirs with
  | nil => exact Logged.Quieter.refl _
  | cons dir dirs ih =>
    have hdir := h.tryLoad (fileIn dir)
    refine hdir.bind fun found => ?_
    cases found with
    | some c => exact Logged.Quieter.refl _
    | none => exact ih

/-- The configuration for a working directory is the same, with fewer records. -/
theorem Sifts.current (h : Sifts read read') (cwd : Except OsError String) :
    Logged.Quieter (current read' cwd) (current read cwd) := by
  cases cwd with
  | error e => exact Logged.Quieter.refl _
  | ok dir =>
    have hfound := h.firstUsable (Files.Path.nearest reach dir.toList)
    exact hfound.bind fun found => Logged.Quieter.refl _

end Config

end Splice
