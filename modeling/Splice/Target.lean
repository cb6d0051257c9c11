/-
  Finding the one method an override is built against.

  What is asked of a class is only what `Target` lists: a name, the first method it declares itself
  under a given name, and an enumeration of all methods that can be seen on it.  Nothing ties the
  last two together, so the rule below is stated for any answers they give.

  The rule: a method the class declares itself wins.  Otherwise the enumeration is gone through to
  its end and the LAST method of that name is taken.  Over a chain of ancestors that enumerates
  from near to far this is the method of the farthest ancestor that declares one, and among that
  ancestor's methods the last.
-/
import Splice.Failure
import Splice.Lineage

namespace Splice

/-- What resolution asks of a class. -/
class Target (μ : Type) where
  name : μ → String
  declared? : μ → String → Option Method
  visible : μ → List Method

instance : Target Lineage where
  name := Lineage.name
  declared? := Lineage.declared?
  visible := Lineage.visible

/-- A class given by its two answers alone. -/
structure ListedTarget where
  name : String
  declared : List Method
  visible : List Method
deriving Repr

instance : Target ListedTarget where
  name := ListedTarget.name
  declared? t name := t.declared.find? (·.name == name)
  visible := ListedTarget.visible

/-- The last method of a name: the first one seen from the end. -/
def lastNamed? (name : String) (ms : List Method) : Option Method :=
  ms.reverse.find? (·.name == name)

/-- A method is the last of its name when no later one has the name. -/
theorem lastNamed?_eq_some_iff {name : String} {ms : List Method} {m : Method} :
    lastNamed? name ms = some m ↔
      m.name = name ∧ ∃ before after, ms = before ++ m :: after ∧ ∀ n ∈ after, n.name ≠ name := by
  unfold lastNamed?
  rw [List.find?_eq_some_iff_append]
  constructor
  · rintro ⟨hm, as, bs, h, hn⟩
    refine ⟨by simpa using hm, bs.reverse, as.reverse, ?_, by simpa using hn⟩
    simpa using congrArg List.reverse h
  · rintro ⟨hm, before, after, rfl, hn⟩
    exact ⟨by simpa using hm, after.reverse, before.reverse, by simp, by simpa using hn⟩

theorem lastNamed?_eq_none_iff {name : String} {ms : List Method} :
    lastNamed? name ms = none ↔ ∀ m ∈ ms, m.name ≠ name := by
  simp [lastNamed?]

namespace Target

variable {μ : Type} [Target μ]

/-- The method an override of `name` is built against.  Looking beyond the class's own methods is
    put on record, also when nothing is found there. -/
def resolve (t : μ) (name : String) : Attempt Method := do
  match declared? t name with
  | some m => pure m
  | none =>
    Logged.write .debug
      (Target.name t ++ " declares no method " ++ name ++ ", scanning visible methods")
    match lastNamed? name (visible t) with
    | some m => pure m
    | none => throw (.methodNotFound (Target.name t) name)

theorem outcome_resolve (t : μ) (name : String) :
    (resolve t name).outcome =
      match (declared? t name).or (lastNamed? name (visible t)) with
      | some m => .ok m
      | none => .error (.methodNotFound (Target.name t) name) := by
  unfold resolve
  cases declared? t name with
  | some m => rfl
  | none => cases lastNamed? name (visible t) <;> rfl

theorem records_resolve (t : μ) (name : String) :
    (resolve t name).records =
      if (declared? t name).isSome then []
      else [⟨.debug,
        Target.name t ++ " declares no method " ++ name ++ ", scanning visible methods"⟩] := by
  unfold resolve
  cases declared? t name with
  | some m => rfl
  | none => cases lastNamed? name (visible t) <;> rfl

end Target

end Splice
