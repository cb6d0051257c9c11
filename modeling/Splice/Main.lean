/-
  The program.

  Everything is decided by `CommandLine.run`; here the world is only looked at and changed.  The
  files a command may ask for are read before it runs — those it names, and the configuration files
  of the ten nearest directories — and a file it writes is written afterwards.  Records go to
  standard error, from the level the command line asks for on.
-/
import Splice.CommandLine

namespace Splice.Program

open Files

/-- The operating system's word on a failed file operation. -/
def osError : IO.Error → OsError
  | .noFileOrDirectory .. => .notFound
  | .resourceExhausted _ code details => .other s!"{details} (os error {code})"
  | .inappropriateType _ 21 _ => .isADirectory
  | .inappropriateType _ 20 _ => .notADirectory
  | .permissionDenied _ code details => .other s!"{details} (os error {code})"
  | e => .other (toString e)

/-- The text of a file. -/
def readText (path : String) : IO (Except OsError String) := do
  try
    let content ← IO.FS.readBinFile path
    match String.fromUTF8? content with
    | some text => pure (.ok text)
    | none => pure (.error .notText)
  catch e => pure (.error (osError e))

/-- What is known of the file system, and the file to be written. -/
structure Snapshot where
  texts : List (String × Except OsError String)
  present : List String
  pending : Option (String × String) := none

/-- A snapshot as a file system: writing takes down what is to be written. -/
def Snapshot.disk : Disk Snapshot where
  read s path := (s.texts.lookup path).getD (.error .notFound)
  holds s path := s.present.contains path
  write s path text := .ok { s with pending := some (path, text) }

/-- The files an invocation may ask for. -/
def wanted (cwd : Except OsError String) : Invocation → List String
  | ⟨_, .plan order⟩ =>
    order.manifest :: match order.config, cwd with
      | some path, _ => [path]
      | none, .ok dir => (Path.nearest Config.reach dir.toList).map Config.fileIn
      | none, .error _ => []
  | ⟨_, .init _⟩ => []

/-- The working directory. -/
def workingDirectory : IO (Except OsError String) := do
  try
    let dir ← IO.currentDir
    pure (.ok dir.toString)
  catch e => pure (.error (osError e))

/-- Whether the working directory has a configuration. -/
def starterPresent : IO Bool := do
  try
    let dir ← IO.currentDir
    (dir / Config.fileName).pathExists
  catch _ => pure false

/-- The importance from which on records are shown. -/
def threshold (verbose : Nat) : Level :=
  match verbose with
  | 0 => .warn
  | 1 => .info
  | _ => .debug

/-- Run the program. -/
def run (args : List String) : IO UInt32 := do
  let env ← IO.getEnv "WEAVEKIT_CONFIG"
  let cwd ← workingDirectory
  let parsed := CommandLine.parse env args
  let paths := match parsed with
    | .ok i => wanted cwd i
    | .error _ => []
  let texts ← paths.mapM fun path => do pure (path, ← readText path)
  let starter := Config.fileIn ['.']
  let present := if ← starterPresent then [starter] else []
  let result := CommandLine.run Snapshot.disk cwd env args { texts, present }
  let least := match parsed with
    | .ok i => threshold i.verbose
    | .error _ => .warn
  for r in result.records do
    if least.rank ≤ r.level.rank then IO.eprintln s!"[{r.level.word}] {r.message}"
  let (outcome, after) := result.value
  let outcome ← match after.pending with
    | none => pure outcome
    | some (path, text) =>
      try
        IO.FS.writeFile path text
        pure outcome
      catch e => pure (.ofFailure (.io (osError e)))
  IO.print outcome.output
  if let some message := outcome.failure then IO.eprintln s!"Error: {message}"
  pure outcome.exitCode.toUInt32

end Splice.Program

/-- Entry point. -/
def main (args : List String) : IO UInt32 := Splice.Program.run args
