/-
  Where a configuration comes from.

  * `Config.load`     — from a file that is named: whatever is wrong with it is a failure.
  * `Config.discover` — from the nearest configuration file that can be used, in a directory or one
    of its ancestors, ten directories at most.  A file that is not there is passed over in silence,
    one that cannot be read or is no configuration is passed over on record.
  * `Config.current`  — the one discovered from the working directory, or the defaults.

  Files are seen through a function from paths to texts, and a directory is a path as it is
  written, so "for every file system" is "for every function".
-/
import Splice.Config
import Splice.Files.Path

namespace Splice.Config

/-- How files are seen: the text at a path, or what is wrong with it. -/
abbrev Reading := String → Except OsError String

/-- The number of directories discovery looks into. -/
def reach : Nat := 10

/-- The configuration of a named file. -/
def load (read : Reading) (path : String) : Attempt Config :=
  match read path with
  | .error e => throw (.io e)
  | .ok text =>
    (parse text).withFailure fun e =>
      .configuration ("Failed to parse " ++ path ++ ": " ++ e.message)

/-- The configuration of a file, if it can be used. -/
def tryLoad (read : Reading) (path : String) : Logged (Option Config) :=
  match read path with
  | .error .notFound => pure none
  | .error e => do
    Logged.write .warn ("Cannot read " ++ path ++ ": " ++ e.message)
    pure none
  | .ok text => do
    match ← (parse text).run with
    | .ok c => pure (some c)
    | .error e => do
      Logged.write .warn ("Ignoring " ++ path ++ ": " ++ e.message)
      pure none

/-- The path of the configuration file of a directory. -/
def fileIn (dir : List Char) : String := String.ofList (Files.Path.join dir fileName.toList)

/-- The first usable configuration of several directories. -/
def firstUsable (read : Reading) : List (List Char) → Logged (Option Config)
  | [] => pure none
  | dir :: dirs => do
    match ← tryLoad read (fileIn dir) with
    | some c => pure (some c)
    | none => firstUsable read dirs

/-- The configuration for a directory. -/
def discover (read : Reading) (start : String) : Logged (Option Config) :=
  firstUsable read (Files.Path.nearest reach start.toList)

/-- The configuration for the working directory, if there is one, or the defaults. -/
def current (read : Reading) (cwd : Except OsError String) : Logged Config := do
  let found ← match cwd with
    | .ok dir => discover read dir
    | .error e => do
      Logged.write .warn ("No working directory (" ++ e.message ++ "), using default config")
      pure none
  match found with
  | some c => pure c
  | none => do
    Logged.write .debug ("No " ++ fileName ++ " found, using default config")
    pure {}

end Splice.Config
