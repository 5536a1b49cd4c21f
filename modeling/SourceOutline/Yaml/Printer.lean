/-
Values as YAML, in block style. The fields of a mapping are indented two spaces
below their key, the items of a sequence not at all, and an empty collection is
written in brackets on the line of its key.
-/
import SourceOutline.Json.Printer
import SourceOutline.Yaml.Scalar

set_option autoImplicit false

namespace SourceOutline.Yaml

/-- A value without parts, and a line end. -/
def atomLine (indent : Nat) : Json → List Char
  | .str text => scalarLine indent text
  | .arr _ => ['[', ']', '\n']
  | .obj _ => ['\x7b', '\x7d', '\n']
  | value => value.atom ++ ['\n']

mutual

/-- A value after its key, which stands at an indentation. -/
def afterKey (indent : Nat) : Json → List Char
  | .obj (field :: fields) =>
    '\n' :: spaces (indent + 2) ++ firstField (indent + 2) field ++ moreFields (indent + 2) fields
  | .arr (item :: items) => '\n' :: sequenceLines indent (item :: items)
  | value => ' ' :: atomLine (indent + 2) value

/-- A field whose line is already indented. -/
def firstField (indent : Nat) : String × Json → List Char
  | (name, value) => name.toList ++ ':' :: afterKey indent value

/-- Further fields of a mapping. -/
def moreFields (indent : Nat) : List (String × Json) → List Char
  | [] => []
  | field :: fields => spaces indent ++ firstField indent field ++ moreFields indent fields

/-- A value after a dash, which stands at an indentation. -/
def afterDash (indent : Nat) : Json → List Char
  | .obj (field :: fields) => firstField (indent + 2) field ++ moreFields (indent + 2) fields
  | .arr (item :: items) =>
    '-' :: ' ' :: afterDash (indent + 2) item ++ sequenceLines (indent + 2) items
  | value => atomLine (indent + 2) value

/-- The items of a sequence. -/
def sequenceLines (indent : Nat) : List Json → List Char
  | [] => []
  | item :: items =>
    spaces indent ++ '-' :: ' ' :: afterDash indent item ++ sequenceLines indent items

end

/-- A value as a document. -/
def render : Json → String
  | .obj (field :: fields) => String.ofList (firstField 0 field ++ moreFields 0 fields)
  | .arr (item :: items) => String.ofList (sequenceLines 0 (item :: items))
  | value => String.ofList (atomLine 0 value)

end SourceOutline.Yaml
