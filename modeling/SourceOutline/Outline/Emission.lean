/-
From a nested forest to the rows of an outline. Every level yields its leaves,
its region markers and its containers, and a container is followed by its own
level. The options decide what is left out and whether a level is in the order of
declaration or of titles; regions only make sense in the former.

Under a filter on containers each of them is judged by its own title. One that
does not match but holds a match further down is kept as a bare heading.
-/
import SourceOutline.Options.Basic
import SourceOutline.Outline.Basic

set_option autoImplicit false

namespace SourceOutline

/-! ## What is shown -/

namespace Options

/-- Whether containers of a kind are shown. -/
def showsContainer (options : Options) : Kind → Bool
  | .classType => options.containers.classes
  | .interfaceType => options.containers.interfaces
  | .structType => options.containers.structs
  | _ => options.containers.others

/-- Whether a leaf is shown: by its category and visibility, and by its name. -/
def showsLeaf (options : Options) (entry : Entry) : Bool :=
  let visibility := match entry.kind with
    | .constructor | .method => some options.methods
    | .property => some options.properties
    | .field => some options.fields
    | _ => none
  match visibility with
  | some visibility =>
    visibility.allows entry.isPublic && matchesFilter entry.name options.memberFilter
  | none => false

end Options

mutual

/-- Whether some container below is shown and matches a filter, with only shown
containers on the way to it. -/
def Member.holdsMatch (options : Options) (filter : String) : Member → Bool
  | .node _ children => Forest.holdsMatch options filter children

/-- Whether one of the containers, or one below them, is shown and matches. -/
def Forest.holdsMatch (options : Options) (filter : String) : Forest → Bool
  | [] => false
  | member :: rest =>
    (member.isContainer && options.showsContainer member.entry.kind
      && (matchesFilter member.entry.title (some filter) || member.holdsMatch options filter))
    || Forest.holdsMatch options filter rest

end

/-! ## Order -/

/-- Titles up to case, and by case among equals. -/
def titleLe (a b : String) : Bool :=
  let lowerA := Text.lower a
  let lowerB := Text.lower b
  lowerA < lowerB || (lowerA == lowerB && a ≤ b)

/-- A member of a level with the rows it contributes. -/
structure Block where
  entry : Entry
  rows : List Entry

/-- Blocks in the order of their titles. -/
def sortBlocks (blocks : List Block) : List Block :=
  blocks.mergeSort fun a b => titleLe a.entry.title b.entry.title

/-- The blocks of a kind, in the order of their titles. -/
def sortedOfKind (kind : Kind) (blocks : List Block) : List Block :=
  sortBlocks (blocks.filter fun block => block.entry.kind == kind)

/-- A level in title order: constructors, methods, properties, fields, containers. -/
def sortLevel (blocks : List Block) : List Block :=
  sortedOfKind .constructor blocks ++ sortedOfKind .method blocks
    ++ sortedOfKind .property blocks ++ sortedOfKind .field blocks
    ++ sortBlocks (blocks.filter fun block => block.entry.kind.isContainer)

/-- The rows of a level, in the order the options ask for. -/
def arrange (options : Options) (blocks : List Block) : List Entry :=
  (if options.sortMembers then sortLevel blocks else blocks).flatMap Block.rows

/-! ## Rows -/

/-- Whether a container shows its own members: under a filter, only if its title
matches. A container that is not shown at all gives none. -/
def ownMembers? (options : Options) (filter : Option String) (member : Member) : Option Bool :=
  if options.showsContainer member.entry.kind then
    match filter with
    | none => some true
    | some text =>
      if matchesFilter member.entry.title filter then some true
      else if member.holdsMatch options text then some false
      else none
  else none

/-- The row of a leaf or marker, if it is shown. `loose` tells whether the level
shows any. -/
def leafRows (options : Options) (loose : Bool) (entry : Entry) : List Entry :=
  if loose && (entry.kind == .region || options.showsLeaf entry) then [entry] else []

mutual

/-- The rows of a container and of everything shown below it. -/
def Member.rows (options : Options) (filter : Option String) : Member → List Entry
  | .node entry children =>
    match ownMembers? options filter (.node entry children) with
    | some own => entry :: arrange options (Forest.blocks options filter own children)
    | none => []

/-- The blocks of a level. -/
def Forest.blocks (options : Options) (filter : Option String) (loose : Bool) :
    Forest → List Block
  | [] => []
  | member :: rest =>
    { entry := member.entry
      rows := if member.isContainer then member.rows options filter
        else leafRows options loose member.entry }
    :: Forest.blocks options filter loose rest

end

/-- The items of a nested forest. A filter on containers is only looked at when the
members stand in real ones. -/
def Forest.emit (forest : Forest) (options : Options) (encodesContainment : Bool) : List Item :=
  let filter := if encodesContainment then options.classFilter else none
  let loose := options.containers.others && filter.isNone
  (arrange options (forest.blocks options filter loose)).map Entry.item

end SourceOutline
