/-
  Writing one file changes one place.

  A tree is looked at place by place: what shows at a place is nothing, a folder, or a file with its
  content (`FileTree.kindAt?`).  That is all a walk or a reader ever sees of a tree, and two trees
  that show the same at every place differ in nothing that can be observed.

  1. **Places** — what stands at a place stands in a folder (`kindAt?_of_append`), and putting a
     file into a folder changes what shows at that place and nowhere else (`kindAt?_put`).

  2. **Walks** — a walk goes from folder to folder, so that it depends on nothing but where the
     folders are (`walk_eq_ok_congr`), and it ends at a folder or in one (`walk_last`).

  3. **Writing** — hence a file that has been written is the only change to the tree, whatever path
     it is written under (`writtenAt_of_writeText`): every path leads where it led before
     (`WrittenAt.locate_eq_ok_iff`), and reads as it read before unless it leads to the file
     (`WrittenAt.readText_cases`).
-/
import Splice.Files.Tree

namespace Splice.Files

/-- What shows at a place of a tree: a folder, whatever is in it, or a file with its content. -/
inductive Kind
  | folder
  | file (content : ByteArray)

namespace FileTree

variable {s t : FileTree} {cwd p q place : Place} {name path text : String}
  {ss : List (List Char)}

/-- What shows of a tree at its root. -/
def kind : FileTree → Kind
  | .file content => .file content
  | .folder _ => .folder

/-- What shows at a place, if anything is there. -/
def kindAt? (t : FileTree) (place : Place) : Option Kind := (t.at? place).map kind

/-! ## Places -/

theorem at?_append (t : FileTree) (p q : Place) : t.at? (p ++ q) = (t.at? p).bind (·.at? q) := by
  induction p generalizing t with
  | nil => rfl
  | cons name p ih =>
    show (t.child? name).bind (·.at? (p ++ q)) = ((t.child? name).bind (·.at? p)).bind (·.at? q)
    cases t.child? name with
    | none => rfl
    | some u => exact ih u

/-- There is nothing below a place that holds no folder. -/
theorem kindAt?_append_of_ne_folder (hp : t.kindAt? p ≠ some .folder) (hq : q ≠ []) :
    t.kindAt? (p ++ q) = none := by
  obtain ⟨name, q, rfl⟩ := List.exists_cons_of_ne_nil hq
  rw [kindAt?, at?_append]
  rw [kindAt?] at hp
  cases ht : t.at? p with
  | none => rfl
  | some u =>
    cases u with
    | file content => rfl
    | folder entries =>
      rw [ht] at hp
      exact absurd rfl hp

/-- What is not empty stands in a folder. -/
theorem kindAt?_of_append {k : Kind} (h : t.kindAt? (p ++ [name]) = some k) :
    t.kindAt? p = some .folder := by
  refine Classical.byContradiction fun hp => ?_
  rw [kindAt?_append_of_ne_folder hp (List.cons_ne_nil name [])] at h
  exact nomatch h

/-- Above a folder there are folders. -/
theorem kindAt?_dropLast (h : t.kindAt? p = some .folder) :
    t.kindAt? p.dropLast = some .folder := by
  rcases List.eq_nil_or_concat p with rfl | ⟨p, name, rfl⟩
  · exact h
  · rw [List.concat_eq_append] at h
    rw [List.concat_eq_append, List.dropLast_concat]
    exact kindAt?_of_append h

theorem lookup_cons_eq_ite (k l : String) (m : FileTree) (entries : List (String × FileTree)) :
    ((l, m) :: entries).lookup k = if k = l then some m else entries.lookup k := by
  rw [List.lookup_cons]
  split
  · rename_i h
    rw [if_pos (beq_iff_eq.mp h)]
  · rename_i h
    rw [if_neg (beq_eq_false_iff_ne.mp h)]

theorem lookup_putEntry (name k : String) (n : FileTree) (entries : List (String × FileTree)) :
    (putEntry name n entries).lookup k = if k = name then some n else entries.lookup k := by
  induction entries with
  | nil => exact lookup_cons_eq_ite k name n []
  | cons e entries ih =>
    obtain ⟨l, m⟩ := e
    rw [putEntry, lookup_cons_eq_ite]
    split
    · rename_i hl
      rw [lookup_cons_eq_ite, hl]
      split <;> rfl
    · rename_i hl
      rw [lookup_cons_eq_ite, ih]
      by_cases hkl : k = l
      · rw [if_pos hkl, if_pos hkl, if_neg fun hk => hl (hkl.symm.trans hk)]
      · rw [if_neg hkl, if_neg hkl]

/-- What shows below an entry shows in that entry. -/
theorem kindAt?_folder_cons (entries : List (String × FileTree)) (name : String) (q : Place) :
    (folder entries).kindAt? (name :: q) = (entries.lookup name).bind (·.kindAt? q) := by
  show ((entries.lookup name).bind (·.at? q)).map kind = _
  cases entries.lookup name <;> rfl

/-- A file shows at its place alone. -/
theorem kindAt?_file (content : ByteArray) (q : Place) :
    (file content).kindAt? q = if q = [] then some (.file content) else none := by
  cases q <;> rfl

/-- A file that is put into a folder shows at its place, and all else shows as before.  The
    induction goes down the folders on the way; the file itself is put into the last of them. -/
theorem kindAt?_put (content : ByteArray) (hp : t.kindAt? p = some .folder)
    (hplace : t.kindAt? (p ++ [name]) ≠ some .folder) (q : Place) :
    (t.put (p ++ [name]) (.file content)).kindAt? q =
      if q = p ++ [name] then some (.file content) else t.kindAt? q := by
  induction p generalizing t q with
  | nil =>
    cases t with
    | file content => exact nomatch hp
    | folder entries =>
      cases q with
      | nil => rfl
      | cons n q =>
        show (folder (putEntry name (.file content) entries)).kindAt? (n :: q) = _
        rw [kindAt?_folder_cons, lookup_putEntry]
        by_cases hn : n = name
        · subst hn
          rw [if_pos rfl, Option.bind_some, kindAt?_file]
          by_cases hq : q = []
          · simp [hq]
          · have hbelow : (folder entries).kindAt? (n :: q) = none :=
              kindAt?_append_of_ne_folder hplace hq
            simp [hq, hbelow]
        · rw [if_neg hn, ← kindAt?_folder_cons]
          simp [hn]
  | cons m p ih =>
    cases t with
    | file content => exact nomatch hp
    | folder entries =>
      rw [kindAt?_folder_cons] at hp
      rw [List.cons_append, kindAt?_folder_cons] at hplace
      obtain ⟨u, hu, hpu⟩ := Option.bind_eq_some_iff.mp hp
      rw [hu, Option.bind_some] at hplace
      cases q with
      | nil => rfl
      | cons n q =>
        show (folder (putEntry m (((entries.lookup m).getD empty).put (p ++ [name])
          (.file content)) entries)).kindAt? (n :: q) = _
        rw [kindAt?_folder_cons, lookup_putEntry, hu, Option.getD_some]
        by_cases hn : n = m
        · subst hn
          rw [if_pos rfl, Option.bind_some, ih hpu hplace, kindAt?_folder_cons, hu,
            Option.bind_some]
          simp
        · rw [if_neg hn, ← kindAt?_folder_cons]
          simp [hn]

/-! ## Walks -/

/-- The place a piece of a path leads to from a folder. -/
def enter (place : Place) (piece : List Char) : Place :=
  if Path.isIdle piece then place
  else if piece = ['.', '.'] then place.dropLast
  else place ++ [String.ofList piece]

/-- A piece of a path is taken from a folder. -/
theorem walk_cons_eq_ok_iff {piece : List Char} : t.walk (piece :: ss) p = .ok q ↔
    t.kindAt? p = some .folder ∧ t.walk ss (enter p piece) = .ok q := by
  rw [walk, kindAt?, enter]
  cases t.at? p with
  | none => exact iff_of_false nofun fun h => nomatch h.1
  | some u =>
    cases u with
    | file content => exact iff_of_false nofun fun h => nomatch h.1
    | folder entries =>
      dsimp only
      split
      · exact (and_iff_right rfl).symm
      · split
        · exact (and_iff_right rfl).symm
        · exact (and_iff_right rfl).symm

/-- Where a walk ends depends on where the folders are. -/
theorem walk_eq_ok_congr (h : ∀ p, t.kindAt? p = some .folder ↔ s.kindAt? p = some .folder) :
    t.walk ss p = .ok q ↔ s.walk ss p = .ok q := by
  induction ss generalizing p with
  | nil => exact Iff.rfl
  | cons piece ss ih => rw [walk_cons_eq_ok_iff, walk_cons_eq_ok_iff, h p, ih]

/-- A walk ends at a folder, or at a name in a folder. -/
theorem walk_last (hss : ss ≠ []) (h : t.walk ss p = .ok q) :
    t.kindAt? q = some .folder ∨ ∃ r name, t.kindAt? r = some .folder ∧ q = r ++ [name] := by
  induction ss generalizing p with
  | nil => exact absurd rfl hss
  | cons piece ss ih =>
    obtain ⟨hp, hrest⟩ := walk_cons_eq_ok_iff.mp h
    cases ss with
    | cons piece' ss => exact ih (List.cons_ne_nil _ _) hrest
    | nil =>
      obtain rfl : enter p piece = q := Except.ok.inj hrest
      unfold enter
      split
      · exact .inl hp
      · split
        · exact .inl (kindAt?_dropLast hp)
        · exact .inr ⟨p, _, hp, rfl⟩

/-- A path is walked piece by piece, from the root or from the working directory, whatever the
    tree. -/
theorem locate_cases (cwd : Place) (path : String) :
    (∀ t : FileTree, t.locate cwd path = .error .notFound) ∨
      ∃ ss p, ss ≠ [] ∧ ∀ t : FileTree, t.locate cwd path = t.walk ss p := by
  unfold locate
  split
  · exact .inl fun t => rfl
  · exact .inr ⟨_, [], Path.pieces_ne_nil _, fun t => rfl⟩
  · exact .inr ⟨_, cwd, Path.pieces_ne_nil _, fun t => rfl⟩

/-- Where a path leads depends on where the folders are. -/
theorem locate_eq_ok_congr (h : ∀ p, t.kindAt? p = some .folder ↔ s.kindAt? p = some .folder) :
    t.locate cwd path = .ok q ↔ s.locate cwd path = .ok q := by
  rcases locate_cases cwd path with hnone | ⟨ss, p, -, hwalk⟩
  · rw [hnone, hnone]
  · rw [hwalk, hwalk]
    exact walk_eq_ok_congr h

/-- A path leads to a folder, or to a name in a folder. -/
theorem locate_last (h : t.locate cwd path = .ok q) :
    t.kindAt? q = some .folder ∨ ∃ r name, t.kindAt? r = some .folder ∧ q = r ++ [name] := by
  rcases locate_cases cwd path with hnone | ⟨ss, p, hss, hwalk⟩
  · exact nomatch (hnone t).symm.trans h
  · exact walk_last hss ((hwalk t).symm.trans h)

/-! ## Reading and writing -/

/-- A text comes back from its bytes. -/
theorem fromUTF8?_toUTF8 (text : String) : String.fromUTF8? text.toUTF8 = some text :=
  dif_pos text.isValidUTF8

/-- A text is read from the file the path leads to. -/
theorem readText_eq_ok_iff : t.readText cwd path = .ok text ↔
    ∃ q content, t.locate cwd path = .ok q ∧ t.kindAt? q = some (.file content) ∧
      String.fromUTF8? content = some text := by
  unfold readText kindAt?
  cases t.locate cwd path with
  | error e => exact iff_of_false nofun fun ⟨_, _, h, _⟩ => nomatch h
  | ok q =>
    simp only [bind, Except.bind, Except.ok.injEq, exists_and_left, exists_eq_left']
    cases t.at? q with
    | none => exact iff_of_false nofun fun ⟨_, h, _⟩ => nomatch h
    | some u =>
      cases u with
      | folder entries => exact iff_of_false nofun fun ⟨_, h, _⟩ => nomatch h
      | file content =>
        simp only [Option.map_some, kind, Option.some.injEq, Kind.file.injEq, exists_eq_left']
        cases String.fromUTF8? content with
        | none => exact iff_of_false nofun nofun
        | some text' => rw [Except.ok.injEq, Option.some.injEq]

/-- There is something where the path leads. -/
theorem holds_of_kindAt? {k : Kind} (hlocate : t.locate cwd path = .ok q)
    (hkind : t.kindAt? q = some k) : t.holds cwd path = true := by
  obtain ⟨u, hu, -⟩ := Option.map_eq_some_iff.mp hkind
  rw [holds, hlocate]
  exact Option.isSome_of_eq_some hu

/-- A file is written where the path leads, unless a folder is there. -/
theorem writeText_eq_ok_iff : s.writeText cwd path text = .ok t ↔
    ∃ q, s.locate cwd path = .ok q ∧ s.kindAt? q ≠ some .folder ∧
      s.put q (.file text.toUTF8) = t := by
  unfold writeText kindAt?
  cases s.locate cwd path with
  | error e => exact iff_of_false nofun fun ⟨_, h, _⟩ => nomatch h
  | ok q =>
    simp only [bind, Except.bind, Except.ok.injEq, exists_eq_left']
    split
    · rename_i entries hfolder
      rw [hfolder]
      exact iff_of_false nofun fun h => absurd rfl h.1
    · rename_i hfolder
      rw [Except.ok.injEq]
      refine (and_iff_right fun h => ?_).symm
      obtain ⟨u, hu, hkind⟩ := Option.map_eq_some_iff.mp h
      cases u with
      | folder entries => exact hfolder entries hu
      | file content => exact nomatch hkind

/-- `t` is `s` with a text written to a file at a place, and nothing else is different. -/
structure WrittenAt (s t : FileTree) (place : Place) (text : String) : Prop where
  free : s.kindAt? place ≠ some .folder
  here : t.kindAt? place = some (.file text.toUTF8)
  elsewhere : ∀ q, q ≠ place → t.kindAt? q = s.kindAt? q

/-- A file that has been written is at the place its path leads to. -/
theorem writtenAt_of_writeText (h : s.writeText cwd path text = .ok t) :
    ∃ place, s.locate cwd path = .ok place ∧ WrittenAt s t place text := by
  obtain ⟨place, hlocate, hfree, rfl⟩ := writeText_eq_ok_iff.mp h
  -- there is no folder at the place, so that its path has a last name, in a folder
  obtain ⟨r, name, hfolder, rfl⟩ := (locate_last hlocate).resolve_left hfree
  have hput := kindAt?_put text.toUTF8 hfolder hfree
  refine ⟨r ++ [name], hlocate, hfree, ?_, fun q hq => ?_⟩
  · rw [hput, if_pos rfl]
  · rw [hput, if_neg hq]

namespace WrittenAt

theorem folder_iff (h : WrittenAt s t place text) (p : Place) :
    t.kindAt? p = some .folder ↔ s.kindAt? p = some .folder := by
  by_cases hp : p = place
  · rw [hp, h.here]
    exact iff_of_false nofun h.free
  · rw [h.elsewhere p hp]

/-- Every path leads where it led. -/
theorem locate_eq_ok_iff (h : WrittenAt s t place text) :
    t.locate cwd path = .ok q ↔ s.locate cwd path = .ok q :=
  locate_eq_ok_congr h.folder_iff

/-- The text is read back, whatever the path that leads to the file. -/
theorem readText_here (h : WrittenAt s t place text) (hpath : s.locate cwd path = .ok place) :
    t.readText cwd path = .ok text :=
  readText_eq_ok_iff.mpr
    ⟨place, text.toUTF8, h.locate_eq_ok_iff.mpr hpath, h.here, fromUTF8?_toUTF8 text⟩

theorem holds_here (h : WrittenAt s t place text) (hpath : s.locate cwd path = .ok place) :
    t.holds cwd path = true :=
  holds_of_kindAt? (h.locate_eq_ok_iff.mpr hpath) h.here

/-- What is read is the text, from that file, or what was read before. -/
theorem readText_cases {text' : String} (h : WrittenAt s t place text)
    (hread : t.readText cwd path = .ok text') :
    (s.locate cwd path = .ok place ∧ text' = text) ∨ s.readText cwd path = .ok text' := by
  obtain ⟨q, content, hlocate, hkind, hcontent⟩ := readText_eq_ok_iff.mp hread
  rw [h.locate_eq_ok_iff] at hlocate
  by_cases hq : q = place
  · subst hq
    exact .inl ⟨hlocate, Except.ok.inj (hread.symm.trans (h.readText_here hlocate))⟩
  · rw [h.elsewhere q hq] at hkind
    exact .inr (readText_eq_ok_iff.mpr ⟨q, content, hlocate, hkind, hcontent⟩)

end WrittenAt

end FileTree

end Splice.Files
