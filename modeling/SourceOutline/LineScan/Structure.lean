/-
From qualified names to a forest. A declaration goes under the container its
qualifiers name. A container that no line declares is supplied, together with
those around it, and takes its lines from the block of that name if there is one.

Containers stand side by side in the forest, each with its direct members; their
ancestry tells which of them are nested.
-/
import SourceOutline.LineScan.Basic

set_option autoImplicit false

namespace SourceOutline.LineScan

/-- A container under construction. -/
structure Container where
  name : QualifiedName
  entry : Entry
  /-- Its direct members, the last one first. -/
  members : List Member := []

/-- The container as a member. -/
def Container.member (container : Container) : Member :=
  .node container.entry container.members.reverse

/-- The ancestry of what has these qualifiers. -/
def ancestryOf (qualifiers : QualifiedName) : Ancestry := { types := qualifiers }

/-- The lines of the first block that was closed under a name. -/
def spanOf? (blocks : List Block) (name : QualifiedName) : Option (Nat × Nat) :=
  (blocks.find? fun block => block.scope == some name).map fun block => (block.first, block.last)

/-- The last line of the block a line opens. -/
def lastLineOf (blocks : List Block) (line : Nat) : Nat :=
  ((blocks.find? fun block => block.first == line).map Block.last).getD line

/-- Whether there is a container of that name. -/
def hasContainer (containers : List Container) (name : QualifiedName) : Bool :=
  containers.any fun container => container.name == name

/-- A container that no line declares, first used on a line. -/
def supplied (blocks : List Block) (line : Nat) (name : String) (outer : QualifiedName) :
    Container :=
  let (first, last) := (spanOf? blocks (outer ++ [name])).getD (line, line)
  { name := outer ++ [name]
    entry := { kind := .genericType, name := name, startLine := first, endLine := some last,
               parent := ancestryOf outer } }

/-- Supplies the container of a name, given innermost segment first, and those
around it, as far as they are missing. The newest container comes first. -/
def supply (blocks : List Block) (line : Nat) (containers : List Container) :
    List String → List Container
  | [] => containers
  | name :: outer =>
    if hasContainer containers (name :: outer).reverse then containers
    else supplied blocks line name outer.reverse :: supply blocks line containers outer

/-- Adds a member to the newest container of a name. -/
def addMember (name : QualifiedName) (member : Member) : List Container → List Container
  | [] => []
  | container :: rest =>
    if container.name == name then
      { container with members := member :: container.members } :: rest
    else container :: addMember name member rest

/-- The entry of a declaration. -/
def Found.entry (blocks : List Block) (found : Found) : Entry where
  kind := found.declaration.kind
  name := found.name.getLast?.getD ""
  signature := found.declaration.signature
  startLine := found.line
  endLine := some (lastLineOf blocks found.line)
  column := found.column
  parent := ancestryOf found.name.dropLast

/-- Containers and loose members, the newest first. -/
structure Parts where
  containers : List Container := []
  loose : List Member := []

/-- Adds one declaration. -/
def Parts.add (blocks : List Block) (parts : Parts) (found : Found) : Parts :=
  let qualifiers := found.name.dropLast
  let containers := supply blocks found.line parts.containers qualifiers.reverse
  let entry := found.entry blocks
  if entry.kind.isContainer then
    { parts with containers := { name := found.name, entry := entry } :: containers }
  else if qualifiers.isEmpty then
    { parts with containers := containers, loose := .leaf entry :: parts.loose }
  else
    { parts with containers := addMember qualifiers (.leaf entry) containers }

/-- The forest of declarations, in the order of the lines. -/
def structured (blocks : List Block) (found : List Found) : Forest :=
  let parts := found.foldl (Parts.add blocks) {}
  Forest.sortByLine (parts.containers.reverse.map Container.member ++ parts.loose.reverse)

/-- The forest a classifier finds in a text. -/
def forest {σ : Type} (classifier : Classifier σ) (source : String) : Forest :=
  let (found, blocks) := scan classifier source
  structured blocks found

end SourceOutline.LineScan
