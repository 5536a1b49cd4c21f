/-
The formats in which an outline is printed.
-/
import SourceOutline.Json.Printer
import SourceOutline.Outline.Json
import SourceOutline.Report.Summary
import SourceOutline.Yaml.Printer

set_option autoImplicit false

namespace SourceOutline.Report

/-- A format. -/
inductive Format where
  | json
  | yaml
  | ansi
  | summary
deriving DecidableEq, Repr

/-- The format that is used when none is asked for. -/
def Format.default : Format := .json

/-- The format of a given name. -/
def Format.ofName? (name : String) : Option Format :=
  [("json", json), ("yaml", yaml), ("ansi", ansi), ("summary", summary)].lookup name

/-- An outline in a format. -/
def render (outline : Outline) : Format → String
  | .json => outline.toJson.pretty
  | .yaml => Yaml.render outline.toJson
  | .ansi => Terminal.render outline
  | .summary => Summary.render outline

end SourceOutline.Report
