/-
Region markers in a source text. A marker is a line of its own: a directive, or
a comment that holds one, which opens or closes a named stretch of the file. How
it is written depends on the language, and a `MarkerStyle` says how.

The scan pairs the markers up. A closing marker closes the region opened last; it
is dropped when no region is open, and a region still open at the end of the text
is closed on the last line. The markers that come out are therefore properly
nested, and a pair carries one name and one depth.
-/
import SourceOutline.Member.Basic

set_option autoImplicit false

namespace SourceOutline

/-! ## Reading one line -/

/-- How region markers are written. -/
structure MarkerStyle where
  /-- What opens the comment the marker stands in. -/
  opener : Option String
  /-- What closes that comment. It may be left out. -/
  closer : Option String
  /-- Whether a hash comes before the keyword. -/
  hashed : Bool
  /-- Whether the keyword has to be in lower case. -/
  exact : Bool
deriving DecidableEq, Repr

namespace MarkerStyle

/-- A bare directive: `#region Name`. -/
def directive : MarkerStyle := ⟨none, none, true, false⟩

/-- A comment after a hash: `# region Name`. -/
def hashComment : MarkerStyle := ⟨some "#", none, false, true⟩

/-- A directive in a line comment: `//#region Name`. -/
def lineComment : MarkerStyle := ⟨some "//", none, true, false⟩

/-- A directive in a block comment: `/* #region Name */`. -/
def blockComment : MarkerStyle := ⟨some "/*", some "*/", true, false⟩

/-- Whether a text begins with a keyword, up to the case of ASCII letters unless
the match has to be exact. Gives what follows. -/
def dropKeyword? (exact : Bool) : List Char → List Char → Option (List Char)
  | [], cs => some cs
  | _ :: _, [] => none
  | k :: ks, c :: cs =>
    if k = (if exact then c else c.toLower) then dropKeyword? exact ks cs else none

/-- What follows a keyword that ends the text or has a blank after it. -/
def afterKeyword? (exact : Bool) (keyword : List Char) (cs : List Char) : Option (List Char) :=
  match dropKeyword? exact keyword cs with
  | some [] => some []
  | some (c :: rest) => if Text.isBlank c then some (c :: rest) else none
  | none => none

/-- The keyword of each boundary. -/
def keyword : Boundary → List Char
  | .start => "region".toList
  | .stop => "endregion".toList

/-- What follows the comment opener, if the style has one. -/
def dropOpener? (style : MarkerStyle) (cs : List Char) : Option (List Char) :=
  match style.opener with
  | some opener => (Text.dropStart? opener.toList cs).map Text.trimStart
  | none => some cs

/-- What precedes the comment closer, if the style has one and the text too. -/
def dropCloser (style : MarkerStyle) (cs : List Char) : List Char :=
  match style.closer with
  | some closer => Text.trimEnd ((Text.dropEnd? closer.toList cs).getD cs)
  | none => cs

/-- What follows the hash, if the style asks for one. -/
def dropHash? (style : MarkerStyle) (cs : List Char) : Option (List Char) :=
  if style.hashed then (Text.dropStart? ['#'] cs).map Text.trimStart else some cs

/-- The marker a line holds: which side of a region it is, and the text after the
keyword. -/
def read? (style : MarkerStyle) (line : List Char) : Option (Boundary × List Char) := do
  let text ← style.dropOpener? (Text.trim line)
  let text ← style.dropHash? (style.dropCloser text)
  match afterKeyword? style.exact (keyword .stop) text with
  | some rest => return (.stop, Text.trim rest)
  | none =>
    let rest ← afterKeyword? style.exact (keyword .start) text
    return (.start, Text.trim rest)

/-! ## Pairing the markers of a text -/

/-- The closing markers of the regions that are still open, innermost first. -/
def closeAll (line : Nat) : List String → List Member
  | [] => []
  | name :: outer => .ofMarker ⟨.stop, name, outer.length⟩ line 0 :: closeAll line outer

/-- The markers of numbered lines. `opened` holds the names of the open regions,
innermost first, and `last` is the number of the line before. -/
def scanLines (style : MarkerStyle) (opened : List String) (last : Nat) :
    List (Nat × List Char) → List Member
  | [] => closeAll last opened
  | (number, line) :: rest =>
    match style.read? line with
    | none => scanLines style opened number rest
    | some (.start, text) =>
      let name := String.ofList text
      .ofMarker ⟨.start, name, opened.length⟩ number (Text.indent line)
        :: scanLines style (name :: opened) number rest
    | some (.stop, _) =>
      match opened with
      | [] => scanLines style [] number rest
      | name :: outer =>
        .ofMarker ⟨.stop, name, outer.length⟩ number (Text.indent line)
          :: scanLines style outer number rest

/-- The markers of a text from a given line on. -/
def scan (style : MarkerStyle) (source : String) (fromLine : Nat) : List Member :=
  scanLines style [] fromLine ((Text.numbered 0 (Text.lines source)).drop fromLine)

end MarkerStyle

end SourceOutline
