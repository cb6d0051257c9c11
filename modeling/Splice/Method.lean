/-
  Methods, as far as their signature goes.

  `declaringClass` is not part of what a declaration says: it is empty until the method is put
  into a class, which then sets it to its own name.
-/

namespace Splice

/-- A method as it is declared. -/
structure Method where
  name : String
  returnType : String := "void"
  parameters : List String := []
  modifiers : List String := ["public"]
  exceptions : List String := []
  declaringClass : String := ""
deriving DecidableEq, Repr

namespace Method

/-- A public method without parameters that returns nothing. -/
def named (name : String) : Method where
  name := name

/-- The method with another return type. -/
def returning (m : Method) (type : String) : Method := { m with returnType := type }

/-- The method with one more parameter. -/
def withParameter (m : Method) (type : String) : Method :=
  { m with parameters := m.parameters ++ [type] }

/-- The method with these modifiers and no others. -/
def withModifiers (m : Method) (modifiers : List String) : Method :=
  { m with modifiers := modifiers }

/-- The method with one more exception type. -/
def throwing (m : Method) (type : String) : Method :=
  { m with exceptions := m.exceptions ++ [type] }

/-- The method as a member of a class. -/
def declaredOn (m : Method) (className : String) : Method :=
  { m with declaringClass := className }

@[simp] theorem name_declaredOn (m : Method) (c : String) : (m.declaredOn c).name = m.name := rfl

@[simp] theorem declaringClass_declaredOn (m : Method) (c : String) :
    (m.declaredOn c).declaringClass = c := rfl

end Method

end Splice
