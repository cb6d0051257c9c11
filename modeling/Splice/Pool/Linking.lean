/-
  Linking declarations into a pool.

  Every declaration becomes a class with its whole chain of ancestors, whatever the order of the
  list.  A class is built after its superclass, which may build several classes on the way; each
  is built once and kept (`LinkState.built`).  The names of the classes whose superclass is being
  built are kept too (`LinkState.visiting`): meeting one of them again is a cycle.

  Three things can go wrong: a name is declared twice, which is looked for first over the whole
  list; a superclass is not declared; a walk comes back to a class it started from or passed.

  The recursion of `build` ends because each nested call has one more declared name under way
  (`waiting` counts the declarations that are not), so no fuel is needed.
-/
import Splice.Failure
import Splice.Pool

namespace Splice

/-- What linking has done so far, and what it is in the middle of. -/
structure LinkState where
  built : Pool := .empty
  visiting : List String := []
deriving Repr

namespace Linking

/-- The first name that occurs a second time. -/
def firstRepeated : List String → List String → Option String
  | _, [] => none
  | seen, n :: ns => if n ∈ seen then some n else firstRepeated (n :: seen) ns

/-- The declaration of a name. -/
def find? (decls : List Declaration) (name : String) : Option Declaration :=
  decls.find? (·.name == name)

/-- The number of declarations that are not under way. -/
def waiting (decls : List Declaration) (visiting : List String) : Nat :=
  (decls.filter (·.name ∉ visiting)).length

/-- Putting a declared name under way leaves fewer declarations waiting. -/
theorem waiting_lt {decls : List Declaration} {visiting : List String} {name : String}
    {d : Declaration} (hd : find? decls name = some d) (hv : name ∉ visiting) :
    waiting decls (name :: visiting) < waiting decls visiting := by
  have hn : d.name = name := by simpa using List.find?_some hd
  have hm : d ∈ decls := List.mem_of_find?_eq_some hd
  have h : decls.filter (·.name ∉ name :: visiting) =
      (decls.filter (·.name ∉ visiting)).filter (·.name ≠ name) := by
    rw [List.filter_filter]
    congr 1
    funext e
    simp [List.mem_cons, not_or]
  unfold waiting
  rw [h]
  refine Nat.lt_of_le_of_ne (List.length_filter_le _ _) fun he => ?_
  have := List.length_filter_eq_length_iff.mp he d (by simp [hm, hn, hv])
  simp [hn] at this

/-- Build the class of a name, and before it all its ancestors that are not built yet. -/
def build (decls : List Declaration) (name : String) (s : LinkState) :
    Except Failure (Lineage × LinkState) :=
  match s.built.get? name with
  | some c => .ok (c, s)
  | none =>
    match hd : find? decls name with
    | none => .error (.moduleNotFound name)
    | some d =>
      if hv : name ∈ s.visiting then .error (.inheritanceCycle name)
      else
        have := waiting_lt hd hv
        let entered : LinkState := ⟨s.built, name :: s.visiting⟩
        let above : Except Failure (Option Lineage × LinkState) :=
          match d.superclass with
          | none => .ok (none, entered)
          | some parent =>
            match build decls parent entered with
            | .ok (p, t) => .ok (some p, t)
            | .error e => .error e
        match above with
        | .ok (parent, t) =>
          let c := d.over parent
          .ok (c, ⟨t.built.insert c, t.visiting.erase name⟩)
        | .error e => .error e
termination_by waiting decls s.visiting
decreasing_by assumption

/-- Build the classes of several names, one after the other. -/
def buildAll (decls : List Declaration) : List String → LinkState → Except Failure LinkState
  | [], s => .ok s
  | name :: names, s =>
    match build decls name s with
    | .ok (_, t) => buildAll decls names t
    | .error e => .error e

end Linking

/-- The pool of a list of declarations. -/
def Pool.link (decls : List Declaration) : Except Failure Pool :=
  match Linking.firstRepeated [] (decls.map Declaration.name) with
  | some name => .error (.configuration ("class " ++ name ++ " is declared more than once"))
  | none => do
    let s ← Linking.buildAll decls (decls.map Declaration.name) {}
    pure s.built

end Splice
