/-
  The journal: what an operation reports beside its answer.

  A `Record` is one line with its level.  A `Logged α` is an answer together with the records
  written on the way to it, oldest first; sequencing appends.  Nothing is printed here: a record
  is data, so "nothing was reported" and "this was reported before that" are equations between
  lists.
-/

namespace Splice

/-- How much a record matters, least first. -/
inductive Level
  | debug
  | info
  | warn
deriving DecidableEq, Repr

/-- The word for a level. -/
def Level.word : Level → String
  | .debug => "debug"
  | .info => "info"
  | .warn => "warn"

/-- The place of a level in the order of importance. -/
def Level.rank : Level → Nat
  | .debug => 0
  | .info => 1
  | .warn => 2

/-- One line of the journal. -/
structure Record where
  level : Level
  message : String
deriving DecidableEq, Repr

/-- An answer, and the records written on the way to it. -/
structure Logged (α : Type) where
  value : α
  records : List Record
deriving Repr

namespace Logged

instance : Monad Logged where
  pure a := ⟨a, []⟩
  bind x f := ⟨(f x.value).value, x.records ++ (f x.value).records⟩

/-- Write one record. -/
def write (level : Level) (message : String) : Logged Unit := ⟨(), [⟨level, message⟩]⟩

variable {α β : Type}

theorem ext {x y : Logged α} (hv : x.value = y.value) (hr : x.records = y.records) : x = y := by
  cases x; cases y; simp_all

@[simp] theorem value_pure (a : α) : (pure a : Logged α).value = a := rfl
@[simp] theorem records_pure (a : α) : (pure a : Logged α).records = [] := rfl
@[simp] theorem value_bind (x : Logged α) (f : α → Logged β) :
    (x >>= f).value = (f x.value).value := rfl
@[simp] theorem records_bind (x : Logged α) (f : α → Logged β) :
    (x >>= f).records = x.records ++ (f x.value).records := rfl
@[simp] theorem value_write (l : Level) (m : String) : (write l m).value = () := rfl
@[simp] theorem records_write (l : Level) (m : String) : (write l m).records = [⟨l, m⟩] := rfl

instance : LawfulMonad Logged := LawfulMonad.mk' Logged
  (fun _ => ext rfl (by simp [Functor.map]))
  (fun _ _ => ext rfl (by simp))
  (fun _ _ _ => ext rfl (by simp))

end Logged

end Splice
