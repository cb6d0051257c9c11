/-
  A pool of classes, looked up by name.

  A class is stored under its own name, so the pool is a list of classes in the order in which
  their names first came in; inserting a class takes the place of the one that had its name.

  `Pool.declare` builds a pool step by step: the superclass is looked up when the class comes in,
  and what it is then is what the class keeps.
-/
import Splice.Lineage

namespace Splice

/-- Classes by name. -/
structure Pool where
  classes : List Lineage := []
deriving Repr

namespace Pool

/-- The pool without a class. -/
def empty : Pool := ⟨[]⟩

/-- The class of that name. -/
def get? (p : Pool) (name : String) : Option Lineage := p.classes.find? (·.name == name)

/-- A pool is what its names stand for. -/
instance : Coe Pool (String → Option Lineage) := ⟨get?⟩

/-- The number of classes, which is the number of names. -/
def size (p : Pool) : Nat := p.classes.length

/-- The list with `c` in the place of the class of its name, or else at the end. -/
def place (c : Lineage) : List Lineage → List Lineage
  | [] => [c]
  | d :: ds => if d.name = c.name then c :: ds else d :: place c ds

/-- The pool with the class under its name. -/
def insert (p : Pool) (c : Lineage) : Pool := ⟨place c p.classes⟩

theorem find?_place (c : Lineage) (name : String) (ds : List Lineage) :
    (place c ds).find? (·.name == name) =
      if c.name = name then some c else ds.find? (·.name == name) := by
  induction ds with
  | nil => by_cases h : c.name = name <;> simp [place, h]
  | cons d ds ih =>
    by_cases hd : d.name = c.name
    · by_cases h : c.name = name <;> simp [place, hd, h]
    · rw [place, if_neg hd, List.find?_cons, List.find?_cons, ih]
      by_cases h : c.name = name
      · have hn : (d.name == name) = false := by simpa using fun e => hd (e.trans h.symm)
        simp [hn, h]
      · simp [h]

/-- What is found after an insertion: the new class under its name, the old ones elsewhere. -/
theorem get?_insert (p : Pool) (c : Lineage) (name : String) :
    (p.insert c).get? name = if c.name = name then some c else p.get? name :=
  find?_place c name p.classes

@[simp] theorem get?_empty (name : String) : empty.get? name = none := rfl

/-- The pool with the class a declaration describes, over the class the pool holds NOW under the
    superclass's name; nothing if it holds none. -/
def declare (p : Pool) (d : Declaration) : Option Pool :=
  match d.superclass with
  | none => some (p.insert (d.over none))
  | some name => (p.get? name).map fun parent => p.insert (d.over (some parent))

/-- A class is found under its own name only. -/
theorem name_of_get? {p : Pool} {name : String} {c : Lineage} (h : p.get? name = some c) :
    c.name = name := by
  simpa using List.find?_some h

end Pool

end Splice
