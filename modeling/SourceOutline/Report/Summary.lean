/-
An outline as plain text: counts by category, then one line an item.
-/
import SourceOutline.Report.Terminal

set_option autoImplicit false

namespace SourceOutline.Report.Summary

/-- How many items are of one of the kinds that satisfy a condition. -/
def count (outline : Outline) (isOne : Kind → Bool) : String :=
  number (outline.items.filter fun item => isOne item.kind).length

/-- The line of an item, indented by its depth. -/
def itemLine (item : Item) : String :=
  repeated (item.depth + 1) "  " ++ item.kind.label ++ " " ++ item.title ++ " :"
    ++ number (item.startLine + 1) ++ "\n"

/-- The whole report. -/
def render (outline : Outline) : String :=
  "Code Map\n========\n\n"
    ++ "Source: " ++ outline.sourceName ++ "\n"
    ++ "Language: " ++ outline.language.displayName ++ "\n"
    ++ "Lines: " ++ number outline.totalLines ++ "\n"
    ++ "Items: " ++ number outline.items.length ++ "\n"
    ++ "  Types: " ++ count outline Kind.isContainer ++ "\n"
    ++ "  Methods: " ++ count outline Kind.isCallable ++ "\n"
    ++ "  Properties: " ++ count outline (· == .property) ++ "\n"
    ++ "  Fields: " ++ count outline (· == .field) ++ "\n"
    ++ "  Regions: " ++ count outline (· == .region) ++ "\n"
    ++ (if outline.hasErrors then
          "\nParse errors: " ++ number outline.errors.length ++ "\n" else "")
    ++ "\n" ++ joinTexts "" (outline.items.map itemLine)
    ++ "\nGenerated in " ++ number outline.metadata.durationMs ++ "ms (attempts: "
    ++ number outline.attempts ++ ")\n"

end SourceOutline.Report.Summary
