/-
  The two commands: printing a plan, and writing a configuration to start from.

  A command gives the text it would print; printing it is left to the caller.  `PlanOrder.run`
  only reads, so it sees files through a reading function.  What it needs is looked at in a fixed
  order: the configuration, the manifest file, the manifest, the plan.  Without a named
  configuration file that first step cannot fail.

  `Config.create` also writes, so it works on a `Disk` and gives the state after it.  It never
  replaces a file unless it is told to.
-/
import Splice.Config.Discovery
import Splice.Files.Tree
import Splice.Plan
import Splice.Plan.Report

namespace Splice

/-! ## Printing a plan -/

/-- What is to be planned and how it is to be printed. -/
structure PlanOrder where
  manifest : String
  format : Option Format := none
  config : Option String := none
deriving DecidableEq, Repr

/-- The manifest of a file. -/
def Manifest.load (read : Config.Reading) (path : String) : Except Failure Manifest :=
  match read path with
  | .error _ => .error (.manifestUnreadable path)
  | .ok text =>
    match Toml.decode (Manifest.ofValue .toml) text with
    | .error _ => .error (.manifestUnparsable path)
    | .ok m => .ok m

namespace PlanOrder

/-- The configuration an order is carried out with. -/
def configuration (o : PlanOrder) (read : Config.Reading) (cwd : Except OsError String) :
    Attempt Config :=
  match o.config with
  | some path => Config.load read path
  | none => Attempt.ofLogged (Config.current read cwd)

/-- What an order prints. -/
def run (o : PlanOrder) (read : Config.Reading) (cwd : Except OsError String) :
    Attempt String := do
  let config ← o.configuration read cwd
  let manifest ← Attempt.ofExcept (Manifest.load read o.manifest)
  let summary ← manifest.plan config
  pure (summary.render (o.format.getD config.defaultFormat) ++ "\n")

end PlanOrder

/-! ## A configuration to start from -/

namespace Config

/-- The text of a new configuration file; it says what holds without one. -/
def starter : String :=
  "# Weavekit Configuration\n\n[insertion]\n"
    ++ "# Placeholder replaced by the body in full method text\nbody_tag = \"BODY\"\n\n"
    ++ "[output]\ndefault_format = \"json\"\n"

/-- Write a new configuration file into a directory: what is printed, and the state after it. -/
def create {φ : Type} (disk : Files.Disk φ) (dir : String) (force : Bool) (s : φ) :
    Except Failure (String × φ) :=
  let path := fileIn dir.toList
  if disk.holds s path && !force then
    .error (.other "Configuration file already exists. Use --force to overwrite.")
  else
    match disk.write s path starter with
    | .error e => .error (.io e)
    | .ok t => .ok ("Created " ++ fileName ++ " configuration file\n", t)

end Config

end Splice
