/-
  Every way an operation can fail, as causes.

  A failure carries the names and texts its cause is about; `Failure.message` is the only place
  that words it.  A file that cannot be read, a document that is not well formed and a document of
  the wrong shape are different causes, and so are the two faults of a manifest file, which name
  the file and nothing else.

  `Attempt α` is an operation that may fail and keeps a journal: what was written before a failure
  stays written.  `Effect σ α` also changes a state of a collaborator, and here too a failure does
  not undo the change.
-/
import Splice.Journal
import Splice.Value

namespace Splice

/-- What the operating system says about a file. -/
inductive OsError
  | notFound
  | notADirectory
  | isADirectory
  | notText
  | other (text : String)
deriving DecidableEq, Repr

/-- The operating system's wording. -/
def OsError.message : OsError → String
  | .notFound => "No such file or directory (os error 2)"
  | .notADirectory => "Not a directory (os error 20)"
  | .isADirectory => "Is a directory (os error 21)"
  | .notText => "stream did not contain valid UTF-8"
  | .other text => text

/-- Why a document could not be read into typed data.  Where in the text the fault was met is not
    part of the cause. -/
inductive DocumentError
  /-- The text is no document at all. -/
  | malformed
  /-- The document does not have the wanted shape. -/
  | misshapen (e : ShapeError)
deriving DecidableEq, Repr

/-- The wording of a document's fault.  That of a malformed text is not modelled: a constant stands
    for the reader's own diagnosis, which shows the place and says what was expected there.  Nor is
    the place that the reader puts in front of a fault of shape. -/
def DocumentError.message : DocumentError → String
  | .malformed => "TOML parse error"
  | .misshapen e => e.message

/-- The causes of failure. -/
inductive Failure
  /-- No method of that name is visible on the class. -/
  | methodNotFound (className method : String)
  /-- An insertion was assembled from a draft with a part missing. -/
  | incompleteSpecification
  /-- No class has that name. -/
  | moduleNotFound (name : String)
  /-- The superclass walk comes back to the class. -/
  | inheritanceCycle (name : String)
  /-- A method could not be written as text. -/
  | signature (text : String)
  /-- A configuration or a list of declarations is not usable. -/
  | configuration (text : String)
  /-- A file operation failed. -/
  | io (e : OsError)
  /-- A TOML document could not be read. -/
  | toml (e : DocumentError)
  /-- A JSON value does not have the wanted shape. -/
  | json (e : ShapeError)
  /-- The manifest file could not be read. -/
  | manifestUnreadable (path : String)
  /-- The manifest file is no manifest. -/
  | manifestUnparsable (path : String)
  /-- Any other cause, such as an engine's own. -/
  | other (text : String)
deriving DecidableEq, Repr

/-- The wording of a failure. -/
def Failure.message : Failure → String
  | .methodNotFound c m => "Class " ++ c ++ " doesn't contain any method named " ++ m
  | .incompleteSpecification => "Builder was not used as intended. A field is missing."
  | .moduleNotFound name => "Module not found: " ++ name
  | .inheritanceCycle name => "Inheritance cycle through class " ++ name
  | .signature text => "Signature error: " ++ text
  | .configuration text => "Configuration error: " ++ text
  | .io e => e.message
  | .toml e => e.message
  | .json e => e.message
  | .manifestUnreadable path => "Failed to read manifest " ++ path
  | .manifestUnparsable path => "Failed to parse manifest " ++ path
  | .other text => text

/-! ## Operations that may fail -/

/-- An operation that may fail and keeps a journal. -/
abbrev Attempt (α : Type) := ExceptT Failure Logged α

namespace Attempt

variable {α β : Type}

/-- An operation that only keeps a journal. -/
def ofLogged (x : Logged α) : Attempt α := ExceptT.mk (Except.ok <$> x)

/-- An operation that only may fail. -/
def ofExcept (x : Except Failure α) : Attempt α := ExceptT.mk (pure x)

/-- The operation with its failure told in other words. -/
def withFailure (x : Attempt α) (f : Failure → Failure) : Attempt α :=
  ExceptT.mk ((fun r => r.mapError f) <$> x.run)

/-- The answer or the failure. -/
def outcome (x : Attempt α) : Except Failure α := x.run.value

/-- The records written, up to the failure if there is one. -/
def records (x : Attempt α) : List Record := x.run.records

@[simp] theorem outcome_ofLogged (x : Logged α) : (ofLogged x).outcome = .ok x.value := rfl
@[simp] theorem records_ofLogged (x : Logged α) : (ofLogged x).records = x.records := by
  simp [ofLogged, records, Functor.map, ExceptT.run, ExceptT.mk]
@[simp] theorem outcome_ofExcept (x : Except Failure α) : (ofExcept x).outcome = x := rfl
@[simp] theorem records_ofExcept (x : Except Failure α) : (ofExcept x).records = [] := rfl
@[simp] theorem outcome_pure (a : α) : (pure a : Attempt α).outcome = .ok a := rfl
@[simp] theorem records_pure (a : α) : (pure a : Attempt α).records = [] := rfl
@[simp] theorem outcome_throw (f : Failure) : (throw f : Attempt α).outcome = .error f := rfl
@[simp] theorem records_throw (f : Failure) : (throw f : Attempt α).records = [] := rfl

/-- Going on after an operation: a failure ends the whole. -/
theorem outcome_bind (x : Attempt α) (f : α → Attempt β) :
    (x >>= f).outcome = x.outcome.bind fun a => (f a).outcome := by
  show (ExceptT.bindCont f x.run.value).value
    = Except.bind x.run.value fun a => (f a).outcome
  cases x.run.value <;> rfl

/-- Going on after an operation: what it wrote comes first. -/
theorem records_bind (x : Attempt α) (f : α → Attempt β) :
    (x >>= f).records =
      x.records ++ match x.outcome with
        | .ok a => (f a).records
        | .error _ => [] := by
  show x.run.records ++ (ExceptT.bindCont f x.run.value).records
    = x.run.records ++ match x.run.value with
        | .ok a => (f a).run.records
        | .error _ => []
  cases x.run.value <;> rfl

end Attempt

/-- An operation that may fail, keeps a journal and changes a state. -/
abbrev Effect (σ α : Type) := ExceptT Failure (StateT σ Logged) α

namespace Effect

variable {σ τ α : Type}

/-- An operation that leaves the state alone. -/
def ofAttempt (x : Attempt α) : Effect σ α := ExceptT.mk fun s => (·, s) <$> x.run

/-- The operation begun in a state: its answer, and the state it leaves. -/
def startingAt (x : Effect σ α) (s : σ) : Attempt (α × σ) :=
  ExceptT.mk ((fun (r, s') => r.map (·, s')) <$> x.run s)

/-- The operation on the first of two states. -/
def onFirst (x : Effect σ α) : Effect (σ × τ) α :=
  ExceptT.mk fun (s, t) => (fun (r, s') => (r, (s', t))) <$> x.run s

/-- The operation on the second of two states. -/
def onSecond (x : Effect τ α) : Effect (σ × τ) α :=
  ExceptT.mk fun (s, t) => (fun (r, t') => (r, (s, t'))) <$> x.run t

end Effect

end Splice
