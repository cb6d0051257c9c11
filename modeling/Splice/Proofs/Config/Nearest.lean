/-
  Which configuration discovery finds, and what it puts on record on the way.

  Discovery looks at the configuration files of a directory and its ancestors, ten directories at
  most, and takes the first that could also have been loaded by its name.  `Nearest read start k c`
  says so without the walk: `k` levels up, at most nine, there is a file that loads as `c`, and none
  of the files below it loads.

  1. **One file** — trying a file is loading it, except that a failure becomes a record
     (`toOption_load`, `records_tryLoad`).  What is put on record of a file depends on that file
     alone (`remarks`): nothing if it is not there, one record if it cannot be read or is no
     configuration, and for a configuration nothing unless its placeholder is blank.

  2. **Several directories** — the walk stops at the first file that loads, so that whatever stands
     behind that in the list of directories might as well not be there (`firstUsable_cut`).  Up to
     there the records of the files follow one another (`records_firstUsable_of_none`,
     `records_firstUsable_hit`).

  3. **The walk** — hence what is discovered from a directory, by levels (`discover_nearest`).
-/
import Splice.Proofs.Config
import Splice.Proofs.Files.Path

namespace Splice.Config

open Files.Path (nearest ancestor?)

variable {read read' : Reading} {c d : Config} {text path start : String} {dir : List Char}
  {dirs before after : List (List Char)} {k : Nat}

/-! ## One file -/

/-- What is put on record of a file that is tried. -/
def remarks (read : Reading) (path : String) : List Record :=
  match read path with
  | .error .notFound => []
  | .error e => [⟨.warn, "Cannot read " ++ path ++ ": " ++ e.message⟩]
  | .ok text =>
    match Toml.decode (ofValue .toml) text with
    | .error e => [⟨.warn, "Ignoring " ++ path ++ ": " ++ e.message⟩]
    | .ok c =>
      if Text.allBlank c.bodyTag then
        [⟨.warn, "Empty insertion.body_tag in config. Using the default."⟩]
      else []

/-- The configuration file of a directory loads, and this is its configuration. -/
def Loads (read : Reading) (dir : List Char) (c : Config) : Prop :=
  (load read (fileIn dir)).outcome = .ok c

theorem Loads.unique (h : Loads read dir c) (h' : Loads read dir d) : c = d :=
  Except.ok.inj (h.symm.trans h')

/-- A file loads if it can be read and is a configuration; the placeholder is repaired then. -/
theorem outcome_load_eq_ok_iff : (load read path).outcome = .ok c ↔
    ∃ text d, read path = .ok text ∧ Toml.decode (ofValue .toml) text = .ok d ∧ d.repaired = c := by
  rw [load]
  cases hread : read path with
  | error e =>
    show Except.error (Failure.io e) = .ok c ↔ _
    constructor
    · rintro ⟨⟩
    · rintro ⟨text, d, ⟨⟩, -⟩
  | ok text =>
    dsimp only
    rw [Attempt.outcome_withFailure_eq_ok_iff, parse]
    cases hdecode : Toml.decode (ofValue .toml) text with
    | error e =>
      show Except.error (Failure.toml e) = .ok c ↔ _
      constructor
      · rintro ⟨⟩
      · rintro ⟨text', d, htext, hd, -⟩
        obtain rfl := Except.ok.inj htext
        cases hdecode.symm.trans hd
    | ok d =>
      show Except.ok d.repaired = .ok c ↔ _
      rw [Except.ok.injEq]
      constructor
      · intro hc
        exact ⟨text, d, rfl, hdecode, hc⟩
      · rintro ⟨text', d', htext, hd, hc⟩
        obtain rfl := Except.ok.inj htext
        obtain rfl := Except.ok.inj (hdecode.symm.trans hd)
        exact hc

/-- A file does not load if it is missing, cannot be read, or is no configuration. -/
theorem forall_outcome_load_ne_ok_iff : (∀ c, (load read path).outcome ≠ .ok c) ↔
    (∃ e, read path = .error e) ∨
      ∃ text e, read path = .ok text ∧ Toml.decode (ofValue .toml) text = .error e := by
  simp only [ne_eq, outcome_load_eq_ok_iff]
  constructor
  · intro h
    cases hread : read path with
    | error e => exact .inl ⟨e, rfl⟩
    | ok text =>
      cases hdecode : Toml.decode (ofValue .toml) text with
      | error e => exact .inr ⟨text, e, rfl, hdecode⟩
      | ok d => exact absurd ⟨text, d, hread, hdecode, rfl⟩ (h d.repaired)
  · rintro (⟨e, he⟩ | ⟨text, e, htext, he⟩) c ⟨text', d, hread, hdecode, -⟩
    · exact nomatch he.symm.trans hread
    · obtain rfl := Except.ok.inj (htext.symm.trans hread)
      exact nomatch he.symm.trans hdecode

/-- Trying a file is loading it. -/
theorem toOption_load (read : Reading) (path : String) :
    (load read path).outcome.toOption = (tryLoad read path).value := by
  rw [value_tryLoad, load]
  cases read path with
  | error e => rfl
  | ok text =>
    show ((parse text).outcome.mapError _).toOption = (parse text).outcome.toOption
    cases (parse text).outcome <;> rfl

theorem value_tryLoad_eq_some_iff :
    (tryLoad read (fileIn dir)).value = some c ↔ Loads read dir c := by
  rw [← toOption_load, toOption_eq_some_iff, Loads]

theorem value_tryLoad_eq_none_iff :
    (tryLoad read (fileIn dir)).value = none ↔ ∀ c, ¬ Loads read dir c := by
  simp only [Option.eq_none_iff_forall_ne_some, ne_eq, value_tryLoad_eq_some_iff]

/-- The records of a file that is tried. -/
theorem records_tryLoad (read : Reading) (path : String) :
    (tryLoad read path).records = remarks read path := by
  rw [tryLoad, remarks]
  cases read path with
  | error e => cases e <;> rfl
  | ok text =>
    dsimp only
    rw [parse]
    cases Toml.decode (ofValue .toml) text with
    | error e => rfl
    | ok c =>
      dsimp only
      show (Attempt.ofLogged c.noteBlank >>= fun _ => pure c.repaired).records ++ [] = _
      rw [Attempt.records_bind_of_ok (Attempt.outcome_ofLogged _), Attempt.records_ofLogged,
        Attempt.records_pure, noteBlank]
      split <;> rfl

/-! ## Several directories -/

theorem value_firstUsable (read : Reading) (dirs : List (List Char)) :
    (firstUsable read dirs).value =
      dirs.findSome? fun dir => (tryLoad read (fileIn dir)).value := by
  induction dirs with
  | nil => rfl
  | cons dir dirs ih =>
    rw [firstUsable, Logged.value_bind, List.findSome?_cons]
    cases (tryLoad read (fileIn dir)).value with
    | some c => rfl
    | none => exact ih

/-- Directories whose files do not load leave their records and nothing else. -/
theorem records_firstUsable_of_none (h : ∀ dir ∈ before, ∀ c, ¬ Loads read dir c)
    (dirs : List (List Char)) : (firstUsable read (before ++ dirs)).records =
      before.flatMap (fun dir => remarks read (fileIn dir)) ++ (firstUsable read dirs).records := by
  induction before with
  | nil => rfl
  | cons dir before ih =>
    obtain ⟨hdir, hbefore⟩ := List.forall_mem_cons.mp h
    rw [List.cons_append, firstUsable, Logged.records_bind, value_tryLoad_eq_none_iff.mpr hdir,
      records_tryLoad, List.flatMap_cons, List.append_assoc]
    exact congrArg _ (ih hbefore)

/-- A file that loads ends the walk with its own records. -/
theorem records_firstUsable_hit (h : Loads read dir c) (after : List (List Char)) :
    (firstUsable read (dir :: after)).records = remarks read (fileIn dir) := by
  rw [firstUsable, Logged.records_bind, value_tryLoad_eq_some_iff.mpr h, records_tryLoad]
  exact List.append_nil _

/-- What stands behind a directory whose file loads is not looked at. -/
theorem firstUsable_cut (h : Loads read dir c) (before after : List (List Char)) :
    firstUsable read (before ++ dir :: after) = firstUsable read (before ++ [dir]) := by
  induction before with
  | nil =>
    rw [List.nil_append, List.nil_append, firstUsable, firstUsable]
    apply Logged.ext
    · rw [Logged.value_bind, Logged.value_bind, value_tryLoad_eq_some_iff.mpr h]
    · rw [Logged.records_bind, Logged.records_bind, value_tryLoad_eq_some_iff.mpr h]
  | cons b before ih =>
    rw [List.cons_append, List.cons_append, firstUsable, firstUsable, ih]

/-- Only the files of the directories that are given are looked at. -/
theorem firstUsable_congr (h : ∀ dir ∈ dirs, read' (fileIn dir) = read (fileIn dir)) :
    firstUsable read' dirs = firstUsable read dirs := by
  induction dirs with
  | nil => rfl
  | cons dir dirs ih =>
    obtain ⟨hdir, hdirs⟩ := List.forall_mem_cons.mp h
    rw [firstUsable, firstUsable, tryLoad, tryLoad, hdir, ih hdirs]

/-! ## The walk -/

/-- The first of a list with a value, by its place. -/
theorem findSome?_eq_some_iff_place {α β : Type} {f : α → Option β} {l : List α} {b : β} :
    l.findSome? f = some b ↔
      ∃ (k : Nat) (a : α), l[k]? = some a ∧ f a = some b ∧
        ∀ (j : Nat) (x : α), j < k → l[j]? = some x → f x = none := by
  induction l with
  | nil => exact iff_of_false nofun fun ⟨k, a, ha, _⟩ => nomatch ha
  | cons x l ih =>
    rw [List.findSome?_cons]
    cases hx : f x with
    | some d =>
      constructor
      · intro hd
        exact ⟨0, x, rfl, hx.trans hd, fun j y hj => absurd hj (Nat.not_lt_zero j)⟩
      · rintro ⟨k, a, ha, hb, hbefore⟩
        cases k with
        | zero =>
          obtain rfl := Option.some.inj ha
          exact hx.symm.trans hb
        | succ k => exact nomatch hx.symm.trans (hbefore 0 x (Nat.succ_pos k) rfl)
    | none =>
      rw [ih]
      constructor
      · rintro ⟨k, a, ha, hb, hbefore⟩
        refine ⟨k + 1, a, ha, hb, fun j y hj hy => ?_⟩
        cases j with
        | zero => exact Option.some.inj hy ▸ hx
        | succ j => exact hbefore j y (Nat.lt_of_succ_lt_succ hj) hy
      · rintro ⟨k, a, ha, hb, hbefore⟩
        cases k with
        | zero =>
          obtain rfl := Option.some.inj ha
          exact nomatch hx.symm.trans hb
        | succ k =>
          exact ⟨k, a, ha, hb, fun j y hj hy => hbefore (j + 1) y (Nat.succ_lt_succ hj) hy⟩

/-- `k` levels up from a directory, at most nine, there is the nearest configuration file that
    loads, and it loads as `c`. -/
structure Nearest (read : Reading) (start : String) (k : Nat) (c : Config) : Prop where
  within : k ≤ 9
  loads : ∃ dir, ancestor? k start.toList = some dir ∧ Loads read dir c
  nearer : ∀ j dir, j < k → ancestor? j start.toList = some dir → ∀ d, ¬ Loads read dir d

theorem value_discover_eq_some_iff :
    (discover read start).value = some c ↔ ∃ k, Nearest read start k c := by
  rw [discover, value_firstUsable, findSome?_eq_some_iff_place]
  simp only [Files.Path.getElem?_nearest, reach, value_tryLoad_eq_some_iff,
    value_tryLoad_eq_none_iff]
  constructor
  · rintro ⟨k, dir, hdir, hloads, hbefore⟩
    have hk : k < 10 := Decidable.byContradiction fun hk => by
      rw [if_neg hk] at hdir
      exact nomatch hdir
    rw [if_pos hk] at hdir
    refine ⟨k, Nat.le_of_lt_succ hk, ⟨dir, hdir, hloads⟩, fun j dir' hj hdir' => ?_⟩
    exact hbefore j dir' hj (by rw [if_pos (Nat.lt_trans hj hk), hdir'])
  · rintro ⟨k, hk, ⟨dir, hdir, hloads⟩, hnearer⟩
    refine ⟨k, dir, by rw [if_pos (Nat.lt_succ_of_le hk), hdir], hloads, fun j dir' hj hdir' => ?_⟩
    rw [if_pos (Nat.lt_trans hj (Nat.lt_succ_of_le hk))] at hdir'
    exact hnearer j dir' hj hdir'

/-- A configuration is found if it loads in an ancestor that is near enough, and whatever loads
    nearer is the same. -/
theorem value_discover_of_loads (hk : k ≤ 9) (hdir : ancestor? k start.toList = some dir)
    (hloads : Loads read dir c)
    (hnearer : ∀ j dir' d, j < k → ancestor? j start.toList = some dir' → Loads read dir' d →
      d = c) : (discover read start).value = some c := by
  obtain ⟨rest, hrest⟩ := Files.Path.nearest_cut (Nat.lt_succ_of_le hk) hdir
  rw [discover, reach, hrest, value_firstUsable, List.findSome?_append, List.findSome?_cons,
    value_tryLoad_eq_some_iff.mpr hloads]
  cases hbefore : (nearest k start.toList).findSome? fun dir' =>
      (tryLoad read (fileIn dir')).value with
  | none => rfl
  | some d =>
    obtain ⟨dir', hmem, hd⟩ := List.exists_of_findSome?_eq_some hbefore
    obtain ⟨j, hj, hdir'⟩ := Files.Path.mem_nearest_iff.mp hmem
    exact congrArg some (hnearer j dir' d hj hdir' (value_tryLoad_eq_some_iff.mp hd))

/-- What is done for a directory is done for the directories up to the one with the file. -/
theorem Nearest.discover_eq (h : Nearest read start k c) :
    discover read start = firstUsable read (nearest (k + 1) start.toList) := by
  obtain ⟨dir, hdir, hloads⟩ := h.loads
  obtain ⟨rest, hrest⟩ := Files.Path.nearest_cut (Nat.lt_succ_of_le h.within) hdir
  rw [discover, reach, hrest, firstUsable_cut hloads, Files.Path.nearest_succ_of_ancestor hdir]

/-- The files below it do not load. -/
theorem Nearest.not_loads (h : Nearest read start k c) :
    ∀ dir ∈ nearest k start.toList, ∀ d, ¬ Loads read dir d := by
  intro dir hmem
  obtain ⟨j, hj, hdir⟩ := Files.Path.mem_nearest_iff.mp hmem
  exact h.nearer j dir hj hdir

theorem Nearest.records_discover (h : Nearest read start k c) : (discover read start).records =
    (nearest (k + 1) start.toList).flatMap fun dir => remarks read (fileIn dir) := by
  obtain ⟨dir, hdir, hloads⟩ := h.loads
  rw [h.discover_eq, Files.Path.nearest_succ_of_ancestor hdir,
    records_firstUsable_of_none h.not_loads, records_firstUsable_hit hloads, List.flatMap_append,
    List.flatMap_singleton]

/-- If nothing is found all directories have been walked through. -/
theorem records_discover_of_none (h : (discover read start).value = none) :
    (discover read start).records =
      (nearest 10 start.toList).flatMap fun dir => remarks read (fileIn dir) := by
  rw [discover, value_firstUsable, List.findSome?_eq_none_iff] at h
  have hnone : ∀ dir ∈ nearest 10 start.toList, ∀ c, ¬ Loads read dir c :=
    fun dir hdir => value_tryLoad_eq_none_iff.mp (h dir hdir)
  have hrecords := records_firstUsable_of_none hnone []
  rwa [List.append_nil, firstUsable, Logged.records_pure, List.append_nil] at hrecords

/-- What discovery from a directory comes to. -/
structure Discovered (read : Reading) (start : String) (x : Logged (Option Config)) : Prop where
  /-- A configuration is found exactly if it is what the nearest file that loads holds. -/
  found : ∀ c, x.value = some c ↔ ∃ k, Nearest read start k c
  /-- A file that is missing, cannot be read or is no configuration does not load. -/
  passed : ∀ path, (∀ c, (load read path).outcome ≠ .ok c) ↔
    (∃ e, read path = .error e) ∨
      ∃ text e, read path = .ok text ∧ Toml.decode (ofValue .toml) text = .error e
  /-- The records are those of the files up to that one, in the order of the walk. -/
  noted : ∀ k c, Nearest read start k c →
    x.records = (nearest (k + 1) start.toList).flatMap fun dir => remarks read (fileIn dir)
  notedAll : x.value = none →
    x.records = (nearest 10 start.toList).flatMap fun dir => remarks read (fileIn dir)
  /-- No other file makes a difference. -/
  upTo : ∀ k c, Nearest read start k c → ∀ read' : Reading,
    (∀ dir ∈ nearest (k + 1) start.toList, read' (fileIn dir) = read (fileIn dir)) →
      discover read' start = x
  upToAll : ∀ read' : Reading,
    (∀ dir ∈ nearest 10 start.toList, read' (fileIn dir) = read (fileIn dir)) →
      discover read' start = x
  /-- The placeholder is the one of the file unless that is blank, and never blank; the format is
      that of the file in any case. -/
  repaired : ∀ k c, Nearest read start k c → c.Usable ∧
    ∃ dir text d, ancestor? k start.toList = some dir ∧ read (fileIn dir) = .ok text ∧
      Toml.decode (ofValue .toml) text = .ok d ∧
      (Text.allBlank d.bodyTag = false → c.bodyTag = d.bodyTag) ∧
      (Text.allBlank d.bodyTag = true → c.bodyTag = Template.defaultTag) ∧
      c.defaultFormat = d.defaultFormat

/-- Repairing a configuration changes a blank placeholder and nothing else. -/
theorem repaired_cases (d : Config) :
    (Text.allBlank d.bodyTag = false → d.repaired.bodyTag = d.bodyTag) ∧
      (Text.allBlank d.bodyTag = true → d.repaired.bodyTag = Template.defaultTag) ∧
      d.repaired.defaultFormat = d.defaultFormat := by
  rw [Config.repaired]
  split
  · rename_i hblank
    exact ⟨fun h => absurd (h.symm.trans hblank) (by decide), fun _ => rfl, rfl⟩
  · rename_i hblank
    exact ⟨fun _ => rfl, fun h => absurd h hblank, rfl⟩

/-- Discovery, on every file system and from every directory. -/
theorem discover_nearest (read : Reading) (start : String) :
    Discovered read start (discover read start) := by
  refine
    { found := fun c => value_discover_eq_some_iff
      passed := fun path => forall_outcome_load_ne_ok_iff
      noted := fun k c h => h.records_discover
      notedAll := records_discover_of_none
      upTo := ?_
      upToAll := fun read' h => firstUsable_congr h
      repaired := ?_ }
  · intro k c h read' hsame
    -- the other files load the same, so that the nearest one is the same
    have h' : Nearest read' start k c := by
      have hloads : ∀ j dir d, j ≤ k → ancestor? j start.toList = some dir →
          (Loads read' dir d ↔ Loads read dir d) := by
        intro j dir d hj hdir
        have hmem : dir ∈ nearest (k + 1) start.toList :=
          Files.Path.mem_nearest_iff.mpr ⟨j, Nat.lt_succ_of_le hj, hdir⟩
        rw [Loads, load, hsame dir hmem, Loads, load]
      obtain ⟨dir, hdir, hload⟩ := h.loads
      exact ⟨h.within, ⟨dir, hdir, (hloads k dir c (Nat.le_refl k) hdir).mpr hload⟩,
        fun j dir hj hdir d hd =>
          h.nearer j dir hj hdir d ((hloads j dir d (Nat.le_of_lt hj) hdir).mp hd)⟩
    rw [h'.discover_eq, h.discover_eq]
    exact firstUsable_congr hsame
  · intro k c h
    obtain ⟨dir, hdir, hloads⟩ := h.loads
    obtain ⟨text, d, htext, hdecode, rfl⟩ := outcome_load_eq_ok_iff.mp hloads
    exact ⟨usable_repaired d, dir, text, d, hdir, htext, hdecode, repaired_cases d⟩

example :
    let read : Reading := fun path =>
      if path = "a/b/.weavekit.toml" then .ok "x"
      else if path = "a/.weavekit.toml" then .ok "[insertion]\nbody_tag = \" \"\n"
      else .error .notFound
    (discover read "a/b/c").value = some {} ∧
      (discover read "a/b/c").records =
        [⟨.warn, "Ignoring a/b/.weavekit.toml: TOML parse error"⟩,
          ⟨.warn, "Empty insertion.body_tag in config. Using the default."⟩] := by
  decide +kernel

end Splice.Config
