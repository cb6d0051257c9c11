/-
  Putting the statements of a TOML document together.

  A document says the same table in pieces: under headers, through dotted keys, as the elements of
  an array of tables.  The rules on what may be said twice hang on how a table came to be, so each
  table of the tree remembers its `Origin`:

  * a table opened by a header of its own is finished with that header's lines;
  * a table that a longer header passed through may still get a header of its own;
  * a table made by a dotted key grows by dotted keys only.

  Arrays and inline tables written as values are closed (`Node.leaf`).

  `Table.within` goes down a path and changes the table at its end; every other operation is that
  one with a change of its own.
-/
import Splice.Value

namespace Splice.Toml

/-- How a table came to be. -/
inductive Origin
  | header
  | passed
  | dotted
deriving DecidableEq

/-- A part of a document under construction. -/
inductive Node
  | leaf (v : Value)
  | table (origin : Origin) (entries : List (String × Node))
  /-- An array of tables: the last one, which is open, and those before it, latest first. -/
  | tables (earlier : List (List (String × Node))) (last : List (String × Node))

/-- The entries of a table in the order they were first mentioned. -/
abbrev Table := List (String × Node)

namespace Table

/-- The table with another node under a key; a new key comes last. -/
def put (key : String) (n : Node) : Table → Table
  | [] => [(key, n)]
  | (k, m) :: t => if k = key then (k, n) :: t else (k, m) :: put key n t

/-- Go down a path and change the table at its end.  Tables that are missing on the way are made;
    `byKey` says whether the path comes from a dotted key or from a header.  The change is told
    the origin of the table it is made to. -/
def within (byKey : Bool) (change : Origin → Table → Option Table) :
    List String → Origin → Table → Option Table
  | [], origin, t => change origin t
  | key :: path, _, t =>
    match t.lookup key with
    | none => do
      let made := if byKey then .dotted else .passed
      let inner ← within byKey change path made []
      some (t.put key (.table made inner))
    | some (.leaf _) => none
    | some (.tables earlier last) => do
      let inner ← within byKey change path .header last
      some (t.put key (.tables earlier inner))
    | some (.table origin entries) =>
      if byKey && origin == .header then none
      else do
        let inner ← within byKey change path origin entries
        some (t.put key (.table origin inner))

/-- The path before the last key, and the last key. -/
def splitLast : List String → Option (List String × String)
  | [] => none
  | [k] => some ([], k)
  | k :: ks => (splitLast ks).map fun (path, last) => (k :: path, last)

/-- Say the value of a key; a dotted key does not reach into a table that a header made. -/
def assign (key : List String) (v : Value) (t : Table) : Option Table := do
  let (path, last) ← splitLast key
  within true
    (fun origin t =>
      if !path.isEmpty && origin != .dotted then none
      else match t.lookup last with
        | none => some (t.put last (.leaf v))
        | some _ => none)
    path .header t

/-- Open a table by its header. -/
def openTable (key : List String) (t : Table) : Option Table := do
  let (path, last) ← splitLast key
  within false
    (fun _ t =>
      match t.lookup last with
      | none => some (t.put last (.table .header []))
      | some (.table .passed entries) => some (t.put last (.table .header entries))
      | some _ => none)
    path .header t

/-- Open the next element of an array of tables. -/
def openElement (key : List String) (t : Table) : Option Table := do
  let (path, last) ← splitLast key
  within false
    (fun _ t =>
      match t.lookup last with
      | none => some (t.put last (.tables [] []))
      | some (.tables earlier open_) => some (t.put last (.tables (open_ :: earlier) []))
      | some _ => none)
    path .header t

/-- Say the value of a key below a header. -/
def assignUnder (header key : List String) (v : Value) (t : Table) : Option Table :=
  within false (fun _ t => assign key v t) header .header t

end Table

/-! ## The finished document -/

mutual

/-- The value of a node. -/
def Node.value : Node → Value
  | .leaf v => v
  | .table _ entries => .table (Node.entryValues entries)
  | .tables earlier last => .list (Node.rowValues earlier [.table (Node.entryValues last)])

/-- The values of the entries of a table. -/
def Node.entryValues : List (String × Node) → List (String × Value)
  | [] => []
  | (k, n) :: t => (k, n.value) :: Node.entryValues t

/-- The values of tables, latest first, before those that come later. -/
def Node.rowValues : List (List (String × Node)) → List Value → List Value
  | [], later => later
  | row :: rows, later => Node.rowValues rows (.table (Node.entryValues row) :: later)

end

/-- The value of a table. -/
def Table.value (t : Table) : Value := .table (Node.entryValues t)

end Splice.Toml
