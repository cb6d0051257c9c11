/-
  A file system: a tree of folders and files.

  A place in the tree is a list of names from the root.  A path as it is written leads to a place:
  it starts at the root or at the working directory, and every piece of it is taken from a folder
  that has to be there — also a single dot, two dots, and the nothing behind a trailing slash.  The
  last name alone need not exist, so the same walk serves reading and writing.

  The tree is looked at through `FileTree.at?`.  Writing changes it at one place.
-/
import Splice.Failure
import Splice.Files.Path

namespace Splice.Files

/-- A file with its content, or a folder with its entries by name. -/
inductive FileTree
  | file (content : ByteArray)
  | folder (entries : List (String × FileTree))

/-- A place in a tree: the names from the root. -/
abbrev Place := List String

namespace FileTree

/-- A tree without a file. -/
def empty : FileTree := .folder []

/-- The entry of a folder. -/
def child? (name : String) : FileTree → Option FileTree
  | .file _ => none
  | .folder entries => entries.lookup name

/-- What stands at a place. -/
def at? : FileTree → Place → Option FileTree
  | t, [] => some t
  | t, name :: place => (t.child? name).bind (at? · place)

/-- The entries with another one under a name. -/
def putEntry (name : String) (n : FileTree) :
    List (String × FileTree) → List (String × FileTree)
  | [] => [(name, n)]
  | (k, m) :: es => if k = name then (name, n) :: es else (k, m) :: putEntry name n es

/-- The tree with `n` at a place; folders on the way are made, files on the way stay. -/
def put : FileTree → Place → FileTree → FileTree
  | _, [], n => n
  | .file content, _ :: _, _ => .file content
  | .folder entries, name :: place, n =>
    .folder (putEntry name (put ((entries.lookup name).getD empty) place n) entries)

/-! ## From a path to a place -/

/-- Take the pieces of a path one after the other. -/
def walk (t : FileTree) : List (List Char) → Place → Except OsError Place
  | [], place => .ok place
  | s :: ss, place =>
    match t.at? place with
    | none => .error .notFound
    | some (.file _) => .error .notADirectory
    | some (.folder _) =>
      if Path.isIdle s then walk t ss place
      else if s = ['.', '.'] then walk t ss place.dropLast
      else walk t ss (place ++ [String.ofList s])

/-- The place a path leads to from the working directory. -/
def locate (t : FileTree) (cwd : Place) (path : String) : Except OsError Place :=
  match path.toList with
  | [] => .error .notFound
  | '/' :: r => t.walk (Path.pieces r) []
  | p => t.walk (Path.pieces p) cwd

/-! ## Files -/

/-- The text of a file. -/
def readText (t : FileTree) (cwd : Place) (path : String) : Except OsError String := do
  let place ← t.locate cwd path
  match t.at? place with
  | none => .error .notFound
  | some (.folder _) => .error .isADirectory
  | some (.file content) =>
    match String.fromUTF8? content with
    | some text => .ok text
    | none => .error .notText

/-- Whether a path leads to a file or a folder. -/
def holds (t : FileTree) (cwd : Place) (path : String) : Bool :=
  match t.locate cwd path with
  | .ok place => (t.at? place).isSome
  | .error _ => false

/-- Write a file, over the one that may be there. -/
def writeText (t : FileTree) (cwd : Place) (path text : String) : Except OsError FileTree := do
  let place ← t.locate cwd path
  match t.at? place with
  | some (.folder _) => .error .isADirectory
  | _ => .ok (t.put place (.file text.toUTF8))

end FileTree

/-! ## What commands ask of a file system -/

/-- A file system whose states are `φ`, as seen from one working directory. -/
structure Disk (φ : Type) where
  read : φ → String → Except OsError String
  holds : φ → String → Bool
  write : φ → String → String → Except OsError φ

/-- A tree as seen from a working directory. -/
def FileTree.disk (cwd : Place) : Disk FileTree where
  read t := t.readText cwd
  holds t := t.holds cwd
  write t := t.writeText cwd

end Splice.Files
