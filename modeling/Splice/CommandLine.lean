/-
  The command line.

      [-v] plan MANIFEST [-f FORMAT] [-c FILE] [-v]
      [-v] init [-f] [-v]
      help [COMMAND]

  Arguments are read from left to right at one of three levels: before the command, and behind
  either command.  A level knows some switches (`Level.long?`, `Level.short?`) and at most one
  positional argument.

  A switch that takes a value may get it in the same argument or as the next one.  A value that
  came as an argument of its own — of a switch or a positional one — is only taken down and is
  looked at when the next switch or positional argument or the end comes (`Scan.settle`).  An
  argument the level does not know is refused at once, before the value taken down is looked at.

  `-v` may stand at both levels; what stands behind the command counts.
-/
import Splice.Command

namespace Splice

/-- Why no command is carried out; the last two are answers and no errors. -/
inductive UsageError
  | noArguments
  | missingCommand
  | unknownCommand
  | missingArgument
  | unknownArgument
  | invalidValue
  | surplusValue
  | conflict
  | help
  | version
deriving DecidableEq, Repr

/-- The exit code of a call that carries out no command. -/
def UsageError.exitCode : UsageError → Nat
  | .help | .version => 0
  | _ => 2

/-- A command with its arguments. -/
inductive Command
  | plan (order : PlanOrder)
  | init (force : Bool)
deriving DecidableEq, Repr

/-- What a command line asks for. -/
structure Invocation where
  verbose : Nat
  command : Command
deriving DecidableEq, Repr

namespace CommandLine

/-! ## Levels and switches -/

/-- Where on the command line an argument stands. -/
inductive Level
  | top
  | plan
  | init
deriving DecidableEq, Repr

/-- The switches. -/
inductive Switch
  | verbose
  | force
  | format
  | config
  | help
  | version
deriving DecidableEq, Repr

/-- Whether a switch comes with a value. -/
def Switch.takesValue : Switch → Bool
  | .format | .config => true
  | _ => false

/-- The switches of a level, by long name and by letter. -/
def Level.switches : Level → List (String × Char × Switch)
  | .top => [("verbose", 'v', .verbose), ("help", 'h', .help), ("version", 'V', .version)]
  | .plan => [("format", 'f', .format), ("config", 'c', .config), ("verbose", 'v', .verbose),
      ("help", 'h', .help)]
  | .init => [("force", 'f', .force), ("verbose", 'v', .verbose), ("help", 'h', .help)]

/-- The switch of a long name. -/
def Level.long? (l : Level) (name : List Char) : Option Switch :=
  (l.switches.find? (·.1.toList == name)).map (·.2.2)

/-- The switch of a letter. -/
def Level.short? (l : Level) (letter : Char) : Option Switch :=
  (l.switches.find? (·.2.1 == letter)).map (·.2.2)

/-- The commands by name. -/
def commands : List (String × Level) := [("plan", .plan), ("init", .init)]

/-! ## One level -/

/-- What was said at a level. -/
structure Said where
  verbose : Nat := 0
  force : Bool := false
  format : Option Format := none
  config : Option String := none
  manifest : Option String := none
deriving DecidableEq, Repr

/-- A value that is still to come, or that is still to be looked at. -/
inductive Pending
  | nothing
  | awaited (s : Switch)
  | value (s : Switch) (text : String)
  | positional (text : String)
deriving DecidableEq, Repr

/-- How far a level has been read. -/
structure Scan where
  said : Said := {}
  pending : Pending := .nothing
  /-- Two dashes have been met: no argument is a switch any more. -/
  trailing : Bool := false
  /-- The positional argument has been met. -/
  filled : Bool := false
deriving DecidableEq, Repr

/-- Take the value of a switch.  A switch is given once; only then is the value looked at. -/
def Said.take (d : Said) (s : Switch) (text : String) : Except UsageError Said :=
  match s with
  | .format =>
    if d.format.isSome then .error .conflict
    else match Format.choices.lookup text with
      | some f => .ok { d with format := some f }
      | none => .error .invalidValue
  | .config =>
    if d.config.isSome then .error .conflict
    else if text = "" then .error .invalidValue
    else .ok { d with config := some text }
  | _ => .error .invalidValue

/-- The verbosity is a byte that stays at its largest value. -/
def maxVerbose : Nat := 255

/-- Take a switch that comes without a value. -/
def Said.flag (d : Said) : Switch → Except UsageError Said
  | .verbose => .ok { d with verbose := min maxVerbose (d.verbose + 1) }
  | .force => if d.force then .error .conflict else .ok { d with force := true }
  | .help => .error .help
  | .version => .error .version
  | .format | .config => .error .invalidValue

/-- Look at the value that was taken down. -/
def Scan.settle (c : Scan) : Except UsageError Scan :=
  match c.pending with
  | .nothing => .ok c
  | .awaited _ => .error .invalidValue
  | .value s text => (c.said.take s text).map fun d => { c with said := d, pending := .nothing }
  | .positional text =>
    if text = "" then .error .invalidValue
    else .ok { c with said := { c.said with manifest := some text }, pending := .nothing }

/-- A switch without a value. -/
def Scan.raise (c : Scan) (s : Switch) : Except UsageError Scan := do
  let c ← c.settle
  let d ← c.said.flag s
  pure { c with said := d }

/-- A switch with a value, given with it or awaited. -/
def Scan.valued (c : Scan) (s : Switch) : Option (List Char) → Except UsageError Scan
  | some text => do
    let c ← c.settle
    let d ← c.said.take s (String.ofList text)
    pure { c with said := d }
  | none => do
    let c ← c.settle
    pure { c with pending := .awaited s }

/-- A text up to its first equals sign, and what follows that. -/
def splitEquals (cs : List Char) : List Char × Option (List Char) :=
  match cs.span (· != '=') with
  | (name, _ :: value) => (name, some value)
  | (name, []) => (name, none)

/-- A long switch. -/
def Scan.long (l : Level) (c : Scan) (cs : List Char) : Except UsageError Scan :=
  let (name, value) := splitEquals cs
  match l.long? name with
  | none => .error .unknownArgument
  | some s =>
    if s.takesValue then c.valued s value
    else if value.isSome then .error .surplusValue
    else c.raise s

/-- A bundle of letters: flags, and at its end one switch with its value. -/
def Scan.bundle (l : Level) : Scan → List Char → Except UsageError Scan
  | c, [] => .ok c
  | c, letter :: r =>
    match l.short? letter with
    | none => .error .unknownArgument
    | some s =>
      if s.takesValue then
        c.valued s (match r with
          | [] => none
          | '=' :: r => some r
          | r => some r)
      else do
        let c ← c.raise s
        bundle l c r

/-- An argument that is no switch and no awaited value. -/
def Scan.positional (l : Level) (c : Scan) (text : String) : Except UsageError Scan :=
  match l with
  | .plan =>
    if c.filled then .error .unknownArgument
    else do
      let c ← c.settle
      pure { c with pending := .positional text, filled := true }
  | .init => .error .unknownArgument
  | .top =>
    if c.trailing && (text == "help" || (commands.lookup text).isSome) then
      .error .unknownArgument
    else .error .unknownCommand

/-- The next argument of a level. -/
def Scan.next (l : Level) (c : Scan) (text : String) : Except UsageError Scan :=
  if c.trailing then c.positional l text
  else match text.toList with
    | ['-', '-'] => .ok { c with trailing := true }
    | '-' :: '-' :: cs => c.long l cs
    | '-' :: letter :: cs => c.bundle l (letter :: cs)
    | _ =>
      match c.pending with
      | .awaited s => .ok { c with pending := .value s text }
      | _ => c.positional l text

/-! ## The whole -/

/-- What is said behind a command. -/
def finish (l : Level) : Scan → List String → Except UsageError Said
  | c, [] => do
    let c ← c.settle
    pure c.said
  | c, text :: texts => do
    let c ← c.next l text
    finish l c texts

/-- Help on a command that is named. -/
def helpOn : List String → UsageError
  | [] => .help
  | [name] => if name = "help" ∨ (commands.lookup name).isSome then .help else .unknownCommand
  | _ => .unknownCommand

/-- The command of a level, from what was said behind it and a configuration file named by the
    environment, which counts only if the command line names none. -/
def command (env : Option String) (d : Said) : Level → Except UsageError Command
  | .plan => do
    let config ← match d.config, env with
      | some path, _ => pure (some path)
      | none, some path => if path = "" then throw .invalidValue else pure (some path)
      | none, none => pure none
    match d.manifest with
    | some manifest => pure (.plan ⟨manifest, d.format, config⟩)
    | none => throw .missingArgument
  | .init => pure (.init d.force)
  | .top => throw .missingCommand

/-- What a command line asks for, from the arguments before the command on. -/
def parseFrom (env : Option String) : Scan → List String → Except UsageError Invocation
  | c, [] => .error (if c.said.verbose = 0 then .noArguments else .missingCommand)
  | c, text :: texts =>
    match c.trailing, commands.lookup text with
    | false, some l => do
      let d ← finish l {} texts
      let command ← command env d l
      pure ⟨if d.verbose = 0 then c.said.verbose else d.verbose, command⟩
    | trailing, _ =>
      if !trailing && text == "help" then .error (helpOn texts)
      else do
        let c ← c.next .top text
        parseFrom env c texts

/-- What a command line asks for.  `env` is the configuration file named by the environment. -/
def parse (env : Option String) (args : List String) : Except UsageError Invocation :=
  parseFrom env {} args

/-! ## Carrying it out -/

/-- What is printed when the version is asked for. -/
def versionText : String := "weavekit 0.1.0\n"

/-- What is printed when help is asked for. -/
def helpText : String :=
  "Plan method insertions and override synthesis\n\n"
    ++ "Usage: weavekit [OPTIONS] <COMMAND>\n\n"
    ++ "Commands:\n"
    ++ "  plan  Resolve the insertion described by a manifest and print it\n"
    ++ "  init  Initialize a .weavekit.toml configuration file\n"
    ++ "  help  Print this message or the help of the given subcommand(s)\n\n"
    ++ "Options:\n"
    ++ "  -v, --verbose...  Increase log verbosity (-v info, -vv debug)\n"
    ++ "  -h, --help        Print help\n"
    ++ "  -V, --version     Print version\n"

/-- What a call of the program leaves to be shown. -/
structure Outcome where
  exitCode : Nat
  output : String := ""
  /-- The message of a failure. -/
  failure : Option String := none
deriving DecidableEq, Repr

/-- The outcome of a failure. -/
def Outcome.ofFailure (f : Failure) : Outcome := ⟨1, "", some f.message⟩

/-- The outcome of a command line that asks for no command. -/
def Outcome.ofUsage : UsageError → Outcome
  | .help => ⟨0, helpText, none⟩
  | .version => ⟨0, versionText, none⟩
  | e => ⟨e.exitCode, "", none⟩

/-- Carry out a command: its outcome, and the state of the file system after it. -/
def Command.run {φ : Type} (disk : Files.Disk φ) (cwd : Except OsError String) (s : φ) :
    Command → Logged (Outcome × φ)
  | .plan order => do
    match ← (order.run (disk.read s) cwd).run with
    | .ok output => pure (⟨0, output, none⟩, s)
    | .error f => pure (.ofFailure f, s)
  | .init force =>
    match Config.create disk "." force s with
    | .ok (output, t) => pure (⟨0, output, none⟩, t)
    | .error f => pure (.ofFailure f, s)

/-- Carry out a command line. -/
def run {φ : Type} (disk : Files.Disk φ) (cwd : Except OsError String) (env : Option String)
    (args : List String) (s : φ) : Logged (Outcome × φ) :=
  match parse env args with
  | .error e => pure (.ofUsage e, s)
  | .ok i => Command.run disk cwd s i.command

/-! ## At work -/

example : (parse none ["-v", "plan", "m", "-fjson", "-vv"]).toOption
    = some ⟨2, .plan ⟨"m", some .json, none⟩⟩ := by decide +kernel

example : (parse none ["plan", "m", "--config", "--x"]).toOption = none := by decide +kernel

end CommandLine

end Splice
