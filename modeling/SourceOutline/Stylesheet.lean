/-
Style sheets. Every line that opens a block is a field, named by its selector; a
long selector is shortened. Blocks inside blocks are listed in the same way, so
there is no containment.
-/
import SourceOutline.Member.Basic

set_option autoImplicit false

namespace SourceOutline.Stylesheet

/-- The longest selector that is shown in full. -/
def longestSelector : Nat := 25

/-- How much of a longer one is kept. -/
def keptOfSelector : Nat := 24

/-- A selector as it is shown. -/
def shorten (selector : List Char) : List Char :=
  if longestSelector < selector.length then selector.take keptOfSelector ++ ['.', '.', '.']
  else selector

/-- The selector of a line that opens a block. -/
def selector? (line : List Char) : Option (List Char) :=
  (Text.dropEnd? ['\x7b'] (Text.trim line)).map Text.trim

/-- The member of a line, if it opens a block. -/
def member? (number : Nat) (line : List Char) : Option Member :=
  (selector? line).map fun selector =>
    .leaf { kind := .field, name := String.ofList (shorten selector), startLine := number,
            column := Text.indent line }

/-- The members of a style sheet. -/
def members (source : String) : Forest :=
  (Text.numbered 0 (Text.lines source)).filterMap fun (number, line) => member? number line

end SourceOutline.Stylesheet
