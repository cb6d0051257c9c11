/-
  Printing a plan.

  Both formats give the parts in the order class, method, body, whole method, point.  The point is
  a structure of its own: its kind, and the callee if it is a point at a call.  The JSON text is
  indented by two spaces and does not end its last line; every line of the TOML text is ended.

  The layout is written on lists of characters, around the strings of either format.
-/
import Splice.Config
import Splice.Insertion
import Splice.Json.Quoted
import Splice.Toml.Quoted

namespace Splice.Summary

/-! ## JSON -/

/-- A member of a JSON object: the key and a string. -/
def jsonMember (key value : String) : List Char :=
  '"' :: key.toList ++ ['"', ':', ' '] ++ Json.quotedChars value.toList

/-- The members of the point's object, each on a line. -/
def jsonPoint (p : Point) : List Char :=
  "    ".toList ++ jsonMember "kind" p.kind ++
    match p.callee? with
    | none => []
    | some c => ",\n    ".toList ++ jsonMember "call" c

/-- The JSON text of a plan, as characters. -/
def jsonChars (s : Summary) : List Char :=
  "\x7b\n  ".toList ++ jsonMember "module" s.className
    ++ ",\n  ".toList ++ jsonMember "target_method" s.method
    ++ ",\n  ".toList ++ jsonMember "body" s.body
    ++ ",\n  ".toList ++ jsonMember "full_method" s.fullMethod
    ++ ",\n  \"insertion_point\": \x7b\n".toList ++ jsonPoint s.point
    ++ "\n  \x7d\n\x7d".toList

/-! ## TOML -/

/-- A line of a TOML table: the key and a string. -/
def tomlLine (key value : String) : List Char :=
  key.toList ++ [' ', '=', ' '] ++ Toml.quotedChars value.toList ++ ['\n']

/-- The TOML text of a plan, as characters. -/
def tomlChars (s : Summary) : List Char :=
  tomlLine "module" s.className ++ tomlLine "target_method" s.method ++ tomlLine "body" s.body
    ++ tomlLine "full_method" s.fullMethod ++ "\n[insertion_point]\n".toList
    ++ tomlLine "kind" s.point.kind
    ++ match s.point.callee? with
      | none => []
      | some c => tomlLine "call" c

/-- The text of a plan in a format. -/
def render (s : Summary) : Format → String
  | .json => String.ofList s.jsonChars
  | .toml => String.ofList s.tomlChars

end Splice.Summary
