/-
  The configuration: the placeholder of templates, and the format plans are printed in.

  A configuration is a TOML document with two tables, both of which may be missing, as may what is
  in them:

      [insertion]
      body_tag = "BODY"

      [output]
      default_format = "json"

  A placeholder of white space alone is not usable; it is replaced by the default one, which is put
  on record.  Nothing else about the configuration changes then.
-/
import Splice.Failure
import Splice.Template
import Splice.Text.Blank
import Splice.Toml.Reader

namespace Splice

/-- The formats a plan is printed in. -/
inductive Format
  | json
  | toml
deriving DecidableEq, Repr

/-- The formats by name. -/
def Format.choices : List (String × Format) := [("json", .json), ("toml", .toml)]

/-- The name of a format. -/
def Format.name : Format → String
  | .json => "json"
  | .toml => "toml"

/-- What can be configured. -/
structure Config where
  bodyTag : String := Template.defaultTag
  defaultFormat : Format := .json
deriving DecidableEq, Repr

namespace Config

/-- The name of a configuration file. -/
def fileName : String := ".weavekit.toml"

/-- The placeholder from the table on insertions. -/
def tagOf (d : Dialect) (v : Value) : Decoded String := do
  let f ← v.fields d "struct InsertionConfig" ["body_tag"]
  let tag ← f.get? "body_tag" (·.asText d)
  f.finish d.surplus
  pure (tag.getD Template.defaultTag)

/-- The format from the table on output. -/
def formatOf (d : Dialect) (v : Value) : Decoded Format := do
  let f ← v.fields d "struct OutputConfig" ["default_format"]
  let format ← f.get? "default_format" (·.asChoice d Format.choices)
  f.finish d.surplus
  pure (format.getD .json)

/-- The configuration of a document, the placeholder as it is written. -/
def ofValue (d : Dialect) (v : Value) : Decoded Config := do
  let f ← v.fields d "struct WeaveConfig" ["insertion", "output"]
  let tag ← f.get? "insertion" (tagOf d)
  let format ← f.get? "output" (formatOf d)
  f.finish d.surplus
  pure ⟨tag.getD Template.defaultTag, format.getD .json⟩

/-- A usable configuration: a placeholder of white space alone gives way to the default one. -/
def repaired (c : Config) : Config :=
  if Text.allBlank c.bodyTag then { c with bodyTag := Template.defaultTag } else c

/-- Put on record that the placeholder is not usable. -/
def noteBlank (c : Config) : Logged Unit :=
  if Text.allBlank c.bodyTag then
    Logged.write .warn "Empty insertion.body_tag in config. Using the default."
  else pure ()

/-- The usable configuration of a text. -/
def parse (text : String) : Attempt Config :=
  match Toml.decode (ofValue .toml) text with
  | .error e => throw (.toml e)
  | .ok c => do
    Attempt.ofLogged c.noteBlank
    pure c.repaired

end Config

end Splice
