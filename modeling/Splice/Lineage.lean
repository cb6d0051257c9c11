/-
  Classes, each with the whole chain of its ancestors.

  A class is its own `Layer` — a name and the methods declared under it — followed by the layers
  of its ancestors, nearest first.  The chain is part of the value, not looked up by name: what a
  class inherits is settled when it is built, and replacing a class elsewhere by another of the
  same name does not change it.  A name may therefore occur twice in one chain.

  A `Declaration` is a class before it is linked: it names its superclass instead of holding it.
-/
import Splice.Method

namespace Splice

/-- A name and the methods declared under it. -/
structure Layer where
  name : String
  methods : List Method := []
deriving DecidableEq, Repr

/-- A class: its own layer, and those of its ancestors, nearest first. -/
structure Lineage where
  own : Layer
  ancestors : List Layer := []
deriving DecidableEq, Repr

namespace Lineage

/-- A class without methods and without a superclass. -/
def root (name : String) : Lineage := ⟨⟨name, []⟩, []⟩

/-- The class's own name. -/
def name (c : Lineage) : String := c.own.name

/-- The methods the class declares itself. -/
def declared (c : Lineage) : List Method := c.own.methods

/-- The layers from the class itself to its farthest ancestor. -/
def chain (c : Lineage) : List Layer := c.own :: c.ancestors

/-- The class this one extends. -/
def superclass? (c : Lineage) : Option Lineage :=
  match c.ancestors with
  | [] => none
  | l :: ls => some ⟨l, ls⟩

/-- The class with another superclass. -/
def extending (c parent : Lineage) : Lineage := { c with ancestors := parent.chain }

/-- The class with one more declared method, which becomes its own. -/
def withMethod (c : Lineage) (m : Method) : Lineage :=
  { c with own := { c.own with methods := c.own.methods ++ [m.declaredOn c.own.name] } }

/-- The names of the ancestors, nearest first. -/
def ancestorNames (c : Lineage) : List String := c.ancestors.map Layer.name

/-- All methods that can be seen on the class: its own, then those of each ancestor in turn. -/
def visible (c : Lineage) : List Method := c.chain.flatMap Layer.methods

/-- The first method the class declares itself under a name. -/
def declared? (c : Lineage) (name : String) : Option Method :=
  c.own.methods.find? (·.name == name)

@[simp] theorem superclass?_root (n : String) : (root n).superclass? = none := rfl

@[simp] theorem superclass?_extending (c p : Lineage) : (c.extending p).superclass? = some p := rfl

theorem ancestors_eq (c : Lineage) :
    c.ancestors = match c.superclass? with
      | none => []
      | some p => p.chain := by
  unfold superclass? chain
  cases c.ancestors <;> rfl

/-- The enumeration of a class is its own methods and then that of its superclass. -/
theorem visible_eq (c : Lineage) :
    c.visible = c.declared ++ match c.superclass? with
      | none => []
      | some p => p.visible := by
  unfold visible chain superclass? declared
  cases c.ancestors <;> simp

end Lineage

/-! ## Declarations -/

/-- A class before it is linked. -/
structure Declaration where
  name : String
  superclass : Option String := none
  methods : List Method := []
deriving DecidableEq, Repr

/-- The class a declaration describes, over a superclass that is already built. -/
def Declaration.over (d : Declaration) (parent : Option Lineage) : Lineage :=
  d.methods.foldl Lineage.withMethod
    (match parent with
      | none => .root d.name
      | some p => (Lineage.root d.name).extending p)

theorem Lineage.foldl_withMethod (ms : List Method) (c : Lineage) :
    ms.foldl Lineage.withMethod c =
      { c with
        own := { c.own with methods := c.own.methods ++ ms.map (·.declaredOn c.name) } } := by
  induction ms generalizing c with
  | nil => simp
  | cons m ms ih => simp [ih, Lineage.withMethod, Lineage.name]

/-- A built class holds the declared methods in order, each as its own. -/
theorem Declaration.own_over (d : Declaration) (parent : Option Lineage) :
    (d.over parent).own = ⟨d.name, d.methods.map (·.declaredOn d.name)⟩ := by
  unfold Declaration.over
  rw [Lineage.foldl_withMethod]
  cases parent <;> simp [Lineage.root, Lineage.extending, Lineage.name]

theorem Declaration.superclass?_over (d : Declaration) (parent : Option Lineage) :
    (d.over parent).superclass? = parent := by
  unfold Declaration.over
  rw [Lineage.foldl_withMethod]
  cases parent <;> rfl

/-! ## At work -/

/-- A class and its superclass, both declaring a method of the same name. -/
def Lineage.overridingPair (methodName : String) : Lineage :=
  ((root "Target").extending ((root "TargetAncestor").withMethod (.named methodName))).withMethod
    (.named methodName)

example : (Lineage.overridingPair "foo").visible.map (·.declaringClass)
    = ["Target", "TargetAncestor"] := by decide

end Splice
