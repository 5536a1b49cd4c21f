/-
An outline for a terminal: a tree in colors, one line an item. Lines and columns
are counted from one here.
-/
import SourceOutline.Outline.Basic
import SourceOutline.Text.LowerCase

set_option autoImplicit false

namespace SourceOutline.Report

/-! ## Numbers and repetition -/

/-- A number in decimal digits. -/
def number (n : Nat) : String := String.ofList (Nat.toDigits 10 n)

/-- A text so many times. -/
def repeated (n : Nat) (text : String) : String := joinTexts "" (List.replicate n text)

namespace Terminal

/-! ## Colors -/

/-- An escape sequence that selects a rendition by its number. -/
def rendition (n : Nat) : String := "\x1b[" ++ number n ++ "m"

/-- Back to plain text. -/
def reset : String := rendition 0

/-- Bold text. -/
def bold : String := rendition 1

/-- Dim text. -/
def dim : String := rendition 2

/-- The color of a kind of member. -/
def kindColor : Kind → String
  | .global => rendition 37
  | .classType => rendition 93
  | .interfaceType => rendition 92
  | .structType => rendition 33
  | .enumType => rendition 93
  | .genericType => rendition 94
  | .constructor => rendition 95
  | .method => rendition 96
  | .property => rendition 34
  | .field => rendition 36
  | .region => rendition 35

/-- The picture for a kind of member. -/
def kindIcon : Kind → String
  | .global => "📦"
  | .classType => "🔷"
  | .interfaceType => "📐"
  | .structType => "🧱"
  | .enumType => "📋"
  | .genericType => "🔶"
  | .constructor => "🔨"
  | .method => "🔹"
  | .property => "📌"
  | .field => "▫"
  | .region => "📁"

/-- The color of a language. -/
def languageColor : Language → String
  | .csharp | .razor => rendition 95
  | .python => rendition 93
  | .javascript => rendition 92
  | .typescript => rendition 94
  | .css => rendition 36

/-- The color of a bookmark, by name. Names that are no color of the terminal are
shown in white. -/
def tagColor (tag : String) : String :=
  let named := [("red", 31), ("green", 32), ("yellow", 33), ("orange", 33), ("blue", 34),
    ("magenta", 35), ("purple", 35), ("violet", 35), ("cyan", 36), ("teal", 36)]
  rendition ((named.lookup (Text.lower tag)).getD 37)

/-! ## Lines -/

/-- The lines an item covers. -/
def lineRange (item : Item) : String :=
  let first := number (item.startLine + 1)
  match item.endLine with
  | some last =>
    if last = item.startLine then first else first ++ "-" ++ number (last + 1)
  | none => first

/-- The line of an item, indented by its depth. -/
def itemLine (item : Item) : String :=
  let badge := match item.colorTag with
    | some tag => " " ++ tagColor tag ++ "● " ++ tag ++ reset
    | none => ""
  repeated (item.depth + 1) "   " ++ kindColor item.kind ++ kindIcon item.kind ++ " "
    ++ item.kind.label ++ reset ++ " " ++ (if item.isPublic then bold else dim) ++ item.title
    ++ reset ++ " " ++ dim ++ ":" ++ lineRange item ++ reset ++ badge ++ "\n"

/-- The line of a diagnostic. -/
def diagnosticLine (diagnostic : Diagnostic) : String :=
  "     " ++ dim ++ number (diagnostic.line + 1) ++ ":" ++ number (diagnostic.column + 1) ++ " "
    ++ diagnostic.message ++ reset ++ "\n"

/-- The lines on faults of the source, if it has any. -/
def faultLines (outline : Outline) : String :=
  if outline.hasErrors then
    "   " ++ rendition 91 ++ "⚠ " ++ number outline.errors.length ++ " parse error(s)" ++ reset
      ++ "\n" ++ joinTexts "" (outline.errors.map diagnosticLine)
  else ""

/-- The whole report. -/
def render (outline : Outline) : String :=
  "\n" ++ bold ++ rendition 44 ++ "  Code Map  " ++ reset ++ reset ++ "\n\n"
    ++ bold ++ languageColor outline.language ++ "📄 " ++ outline.sourceName ++ reset ++ " " ++ dim
    ++ "(" ++ outline.language.displayName ++ ", " ++ number outline.totalLines ++ " lines)"
    ++ reset ++ "\n" ++ faultLines outline ++ joinTexts "" (outline.items.map itemLine)
    ++ "\n" ++ dim ++ number outline.items.length ++ " item(s) in "
    ++ number outline.metadata.durationMs ++ "ms" ++ reset ++ "\n"

end Terminal

end SourceOutline.Report
