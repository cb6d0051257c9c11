/-
  A configuration to start from, and discovery.

  A new configuration file says what holds without one, so that discovery should come to the default
  configuration wherever it meets that file, whatever else there is in the tree.

  1. **Writing it** — on any file system: a file that is there is left alone unless a new one is
     forced, and otherwise it is the file system that decides (`Attempted`).  A failure has no state
     of its own to go on with, and the program goes on with the one it had
     (`value_run_init_of_error`).

  2. **Finding it** — if nothing else is new, a file that loads afterwards holds the new text or has
     loaded the same before (`NothingElseNew.loads`), so that discovery meets nothing new on its way
     but the new file (`NothingElseNew.found`).  On a tree nothing else is: the file that is written
     is the only change (`Files.FileTree.WrittenAt`).
-/
import Splice.CommandLine
import Splice.Proofs.Config.Nearest
import Splice.Proofs.Files.Tree

namespace Splice.Config

open Files (Disk FileTree Place)
open Files.Path (ancestor?)

/-! ## Writing it -/

section Writing

variable {φ : Type} {disk : Disk φ} {dir text : String} {force : Bool} {s t : φ}

/-- What is said of a file that is there and is not to be replaced. -/
def alreadyThere : Failure :=
  .other "Configuration file already exists. Use --force to overwrite."

/-- What is said of a file that has been written. -/
def createdText : String := "Created .weavekit.toml configuration file\n"

/-- What writing a configuration into a directory comes to. -/
structure Attempted (disk : Disk φ) (dir : String) (force : Bool) (s : φ) : Prop where
  refused : disk.holds s (fileIn dir.toList) = true → force = false →
    create disk dir force s = .error alreadyThere
  failed : ∀ e, disk.holds s (fileIn dir.toList) = false ∨ force = true →
    disk.write s (fileIn dir.toList) starter = .error e → create disk dir force s = .error (.io e)
  written : ∀ t, disk.holds s (fileIn dir.toList) = false ∨ force = true →
    disk.write s (fileIn dir.toList) starter = .ok t →
      create disk dir force s = .ok (createdText, t)

theorem create_of_holds (h : disk.holds s (fileIn dir.toList) = true) :
    create disk dir false s = .error alreadyThere := by
  rw [create, h]
  rfl

/-- A file that is not there or is to be replaced is up to the file system. -/
theorem create_of_free (h : disk.holds s (fileIn dir.toList) = false ∨ force = true) :
    create disk dir force s =
      match disk.write s (fileIn dir.toList) starter with
      | .error e => .error (.io e)
      | .ok t => .ok (createdText, t) := by
  have hfree : (disk.holds s (fileIn dir.toList) && !force) = false := by
    rcases h with h | h
    · rw [h, Bool.false_and]
    · rw [h, Bool.not_true, Bool.and_false]
  rw [create, if_neg (Bool.eq_false_iff.mp hfree)]
  rfl

theorem attempted_create (disk : Disk φ) (dir : String) (force : Bool) (s : φ) :
    Attempted disk dir force s where
  refused hholds hforce := hforce ▸ create_of_holds hholds
  failed e hfree hwrite := by rw [create_of_free hfree, hwrite]
  written t hfree hwrite := by rw [create_of_free hfree, hwrite]

/-- What has been created has been written. -/
theorem write_of_create (h : create disk dir force s = .ok (text, t)) :
    disk.write s (fileIn dir.toList) starter = .ok t := by
  by_cases hfree : disk.holds s (fileIn dir.toList) = false ∨ force = true
  · rw [create_of_free hfree] at h
    cases hwrite : disk.write s (fileIn dir.toList) starter with
    | error e =>
      rw [hwrite] at h
      exact nomatch h
    | ok t' =>
      rw [hwrite] at h
      exact congrArg Except.ok (congrArg Prod.snd (Except.ok.inj h))
  · obtain ⟨hholds, hforce⟩ := not_or.mp hfree
    rw [Bool.not_eq_true] at hforce
    rw [Bool.not_eq_false] at hholds
    rw [hforce, create_of_holds hholds] at h
    exact nomatch h

/-- The program goes on with the state it had if there is a failure. -/
theorem value_run_init_of_error {f : Failure} (h : create disk "." force s = .error f)
    (cwd : Except OsError String) :
    (CommandLine.Command.run disk cwd s (.init force)).value = (.ofFailure f, s) := by
  rw [CommandLine.Command.run, h]
  rfl

end Writing

/-! ## Finding it -/

section Finding

variable {c : Config} {read read' : Reading} {dir : List Char} {s t : FileTree} {cwd place : Place}

theorem decode_starter : Toml.decode (ofValue .toml) starter = .ok {} :=
  toOption_eq_some_iff.mp (by decide +kernel)

/-- The new file loads, as the default configuration. -/
theorem loads_starter_iff (h : read (fileIn dir) = .ok starter) : Loads read dir c ↔ c = {} := by
  have hloads : Loads read dir {} :=
    outcome_load_eq_ok_iff.mpr ⟨starter, {}, h, decode_starter, by decide⟩
  constructor
  · intro hc
    exact hc.unique hloads
  · rintro rfl
    exact hloads

/-- Whatever can be read afterwards is the new text, or could be read before. -/
def NothingElseNew (read read' : Reading) : Prop :=
  ∀ path text, read' path = .ok text → text = starter ∨ read path = .ok text

/-- Discovery comes to the default configuration wherever the new text is in a file at most nine
    levels up and no file below that loads.  It is enough that each of them does not load now, or
    has not loaded before. -/
def Found (read read' : Reading) : Prop :=
  ∀ start k dir, k ≤ 9 → ancestor? k start.toList = some dir → read' (fileIn dir) = .ok starter →
    (∀ j dir', j < k → ancestor? j start.toList = some dir' →
      (∀ c, ¬ Loads read dir' c) ∨ ∀ c, ¬ Loads read' dir' c) →
    (discover read' start).value = some {}

/-- What loads afterwards is the default configuration, or has loaded before. -/
theorem NothingElseNew.loads (h : NothingElseNew read read') (hloads : Loads read' dir c) :
    c = {} ∨ Loads read dir c := by
  obtain ⟨text, d, htext, hdecode, hc⟩ := outcome_load_eq_ok_iff.mp hloads
  rcases h _ text htext with rfl | hbefore
  · exact .inl ((loads_starter_iff htext).mp hloads)
  · exact .inr (outcome_load_eq_ok_iff.mpr ⟨text, d, hbefore, hdecode, hc⟩)

theorem NothingElseNew.found (h : NothingElseNew read read') : Found read read' := by
  intro start k dir hk hdir hread hnearer
  have hloads : Loads read' dir {} := (loads_starter_iff hread).mpr rfl
  refine value_discover_of_loads hk hdir hloads fun j dir' d hj hdir' hd => ?_
  rcases hnearer j dir' hj hdir' with hbefore | hafter
  · exact (h.loads hd).resolve_right (hbefore d)
  · exact absurd hd (hafter d)

theorem nothingElseNew_of_writtenAt (h : s.WrittenAt t place starter) :
    NothingElseNew (s.readText cwd) (t.readText cwd) := by
  intro path text hread
  rcases h.readText_cases hread with ⟨-, htext⟩ | hbefore
  · exact .inl htext
  · exact .inr hbefore

/-- `t` is `s` with a new configuration file in a directory, and that is where discovery ends. -/
structure Started (cwd : Place) (dir : String) (s t : FileTree) (place : Place) : Prop where
  /-- The file has the new text, and nothing is different at any other place. -/
  written : s.WrittenAt t place starter
  /-- Its path leads there, and every path leads where it has led. -/
  located : s.locate cwd (fileIn dir.toList) = .ok place
  paths : ∀ path q, t.locate cwd path = .ok q ↔ s.locate cwd path = .ok q
  /-- Discovery comes to the default configuration from the directory, and from below it, by
      whatever path it is below. -/
  found : (discover (t.readText cwd) dir).value = some {}
  text : ∀ path, t.locate cwd path = .ok place → t.readText cwd path = .ok starter
  foundBelow : Found (s.readText cwd) (t.readText cwd)
  /-- The file is there now. -/
  again : create (FileTree.disk cwd) dir false t = .error alreadyThere

/-- A configuration to start from is written or it is not, on every file system, and once it is
    written it is what discovery comes to. -/
theorem create_then_discover {φ : Type} (disk : Disk φ) (cwd : Place) (dir : String)
    (force : Bool) :
    (∀ s, Attempted disk dir force s) ∧
    (∀ s f, create disk "." force s = .error f → ∀ wd,
      (CommandLine.Command.run disk wd s (.init force)).value = (.ofFailure f, s)) ∧
    (∀ s t, NothingElseNew (disk.read s) (disk.read t) → Found (disk.read s) (disk.read t)) ∧
    ∀ s t text, create (FileTree.disk cwd) dir force s = .ok (text, t) →
      ∃ place, Started cwd dir s t place := by
  refine ⟨attempted_create disk dir force, fun s f h => value_run_init_of_error h,
    fun s t h => h.found, ?_⟩
  intro s t text h
  obtain ⟨place, hlocate, hwritten⟩ := Files.FileTree.writtenAt_of_writeText (write_of_create h)
  have hbelow : Found (s.readText cwd) (t.readText cwd) :=
    (nothingElseNew_of_writtenAt hwritten).found
  refine ⟨place,
    { written := hwritten
      located := hlocate
      paths := fun path q => hwritten.locate_eq_ok_iff
      found := ?_
      text := fun path hpath => hwritten.readText_here (hwritten.locate_eq_ok_iff.mp hpath)
      foundBelow := hbelow
      again := create_of_holds (hwritten.holds_here hlocate) }⟩
  -- from the directory itself there is nothing in between
  exact hbelow dir 0 dir.toList (Nat.zero_le 9) rfl (hwritten.readText_here hlocate)
    fun j dir' hj => absurd hj (Nat.not_lt_zero j)

/-- A placeholder of its own gives way to the default one, also one level below, where there is a
    file that is no configuration. -/
theorem create_then_discover_below :
    let s : FileTree := .folder [("d", .folder [
      (".weavekit.toml", .file "[insertion]\nbody_tag = \"@@\"\n".toUTF8),
      ("sub", .folder [(".weavekit.toml", .file "x".toUTF8)])])]
    (discover (s.readText []) "d/sub").value = some ⟨"@@", .json⟩ ∧
      ∃ text t, create (FileTree.disk []) "d" true s = .ok (text, t) ∧
        (discover (t.readText []) "d/sub").value = some {} := by
  intro s
  obtain ⟨⟨text, t⟩, h⟩ : ∃ r, create (FileTree.disk []) "d" true s = .ok r :=
    exists_ok_of_isSome (by decide +kernel)
  obtain ⟨-, -, -, hwrites⟩ := create_then_discover (FileTree.disk []) [] "d" true
  obtain ⟨place, hstarted⟩ := hwrites s t text h
  have hread : t.readText [] (fileIn "d".toList) = .ok starter :=
    hstarted.text _ ((hstarted.paths _ _).mpr hstarted.located)
  refine ⟨by decide +kernel, text, t, h, ?_⟩
  refine hstarted.foundBelow "d/sub" 1 "d".toList (by decide) (by decide +kernel) hread
    fun j dir' hj hdir' => .inl ?_
  obtain rfl : j = 0 := Nat.lt_one_iff.mp hj
  obtain rfl := Option.some.inj hdir'
  exact value_tryLoad_eq_none_iff.mp (by decide +kernel)

end Finding

end Splice.Config
