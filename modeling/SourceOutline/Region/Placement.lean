/-
Where region markers go in a forest. An opening marker belongs to the innermost
container whose body holds its line, and to the file itself when there is none;
there it is qualified by the namespace that reaches over the line. A closing
marker always goes where its opening marker went, so that a pair never straddles
two sibling lists.

Markers are only ever inserted. Nothing else about the forest changes.
-/
import SourceOutline.Outline.Basic
import SourceOutline.Region.Marker

set_option autoImplicit false

namespace SourceOutline

/-- The place of a marker. -/
inductive Placement where
  /-- In the file itself. -/
  | topLevel (path : Ancestry)
  /-- Among the children of the container that starts on that line and has that
  child path. -/
  | inside (startLine : Nat) (path : Ancestry)
deriving DecidableEq

/-! ## Finding the place -/

/-- The element with the greatest key, the last one among equals. -/
def lastMax? {α : Type} (le : α → α → Bool) : List α → Option α
  | [] => none
  | a :: rest =>
    match lastMax? le rest with
    | none => some a
    | some b => if le a b then some b else some a

/-- Whether the body of a container reaches over a line, its own first line
excepted. -/
def Member.reachesOver (line : Nat) (member : Member) : Bool :=
  match member.bodyLines? with
  | some (first, last) => first < line && line ≤ last
  | none => false

/-- Containers by first line, then by depth. -/
def Entry.notDeeper (a b : Entry) : Bool :=
  a.startLine < b.startLine
    || (a.startLine == b.startLine && a.parent.depth ≤ b.parent.depth)

/-- The innermost container around a line. -/
def Forest.innermost? (forest : Forest) (line : Nat) : Option Entry :=
  lastMax? Entry.notDeeper
    ((forest.filter fun member => member.isContainer && member.reachesOver line).map Member.entry)

/-- The namespaces in force on a line: those of the span with the most segments. -/
def namespacesAt (spans : List NamespaceSpan) (line : Nat) : List String :=
  ((lastMax? (fun a b => a.namespaces.length ≤ b.namespaces.length)
    (spans.filter fun span => span.covers line)).map NamespaceSpan.namespaces).getD []

/-- The place of a marker that opens a region on a line. -/
def Forest.locate (forest : Forest) (spans : List NamespaceSpan) (line : Nat) : Placement :=
  match forest.innermost? line with
  | some entry => .inside entry.startLine entry.childPath
  | none => .topLevel { namespaces := namespacesAt spans line }

/-! ## Putting a marker there -/

/-- Inserts a member after the leading members that start no later. -/
def Forest.insertByLine (member : Member) : Forest → Forest
  | [] => [member]
  | other :: rest =>
    if other.startLine ≤ member.startLine then other :: insertByLine member rest
    else member :: other :: rest

/-- The marker with another ancestry. -/
def Member.under (path : Ancestry) : Member → Member
  | .node entry children => .node { entry with parent := path } children

/-- Whether a member is the container a placement names. -/
def Member.isOwner (startLine : Nat) (path : Ancestry) (member : Member) : Bool :=
  member.isContainer && member.startLine == startLine && member.entry.childPath == path

/-- Inserts a marker among the children of the first member that owns the place.
There is none when nobody does. -/
def Forest.insertInside? (startLine : Nat) (path : Ancestry) (marker : Member) :
    Forest → Option Forest
  | [] => none
  | member :: rest =>
    if member.isOwner startLine path then
      some (.node member.entry (Forest.insertByLine (marker.under path) member.children) :: rest)
    else (insertInside? startLine path marker rest).map (member :: ·)

/-- Puts a marker in its place. -/
def Forest.place (forest : Forest) (marker : Member) : Placement → Forest
  | .topLevel path => forest.insertByLine (marker.under path)
  | .inside startLine path =>
    match forest.insertInside? startLine path marker with
    | some forest => forest
    | none => forest.insertByLine (marker.under .root)

/-- Whether a member closes a region. -/
def Member.closesRegion (member : Member) : Bool :=
  match member.entry.region with
  | some marker => marker.boundary == .stop
  | none => false

/-- Puts markers in their places, one after the other. The stack holds the places
of the regions that are open. -/
def Forest.spliceWith (spans : List NamespaceSpan) (stack : List Placement) (forest : Forest) :
    List Member → Forest
  | [] => forest
  | marker :: rest =>
    if marker.closesRegion then
      match stack with
      | [] =>
        spliceWith spans [] (forest.place marker (forest.locate spans marker.startLine)) rest
      | place :: outer => spliceWith spans outer (forest.place marker place) rest
    else
      let place := forest.locate spans marker.startLine
      spliceWith spans (place :: stack) (forest.place marker place) rest

/-- Puts markers in their places. -/
def Forest.splice (forest : Forest) (markers : List Member) (spans : List NamespaceSpan) : Forest :=
  forest.spliceWith spans [] markers

/-- Scans a text for markers and puts them in their places. -/
def Forest.resolveRegions (forest : Forest) (style : MarkerStyle) (source : String)
    (fromLine : Nat) (spans : List NamespaceSpan) : Forest :=
  forest.splice (style.scan source fromLine) spans

end SourceOutline
