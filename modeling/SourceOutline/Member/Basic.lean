/-
The members of a source file: types, functions, properties, fields and region
markers, arranged in a forest.

A member has two parts. Its `Entry` is everything known about the declaration
itself, and its children are the members declared inside it. The split is there
for the operations that move members about: nesting and splicing rearrange
entries and never change one, which can be said as a statement about the entries
in preorder.

The ancestry of a member is kept apart from its place in the forest. It names
the enclosing namespaces and the enclosing types in two lists, so that a member
of a namespace and a member of a type of the same name differ.
-/
import SourceOutline.Text.Basic

set_option autoImplicit false

namespace SourceOutline

/-! ## Kinds -/

/-- What a member is. -/
inductive Kind where
  /-- The container of the functions a file declares outside every type. -/
  | global
  | classType
  | interfaceType
  | structType
  | enumType
  /-- A container that a line scan has to supply for a dotted name. -/
  | genericType
  | constructor
  | method
  | property
  | field
  /-- One marker of a region. -/
  | region
deriving DecidableEq, Repr

namespace Kind

/-- Every kind, once. -/
def all : List Kind :=
  [global, classType, interfaceType, structType, enumType, genericType, constructor, method,
    property, field, region]

/-- The word for the kind in a listing. -/
def label : Kind → String
  | global => "global"
  | classType => "class"
  | interfaceType => "interface"
  | structType => "struct"
  | enumType => "enum"
  | genericType => "type"
  | constructor => "constructor"
  | method => "method"
  | property => "property"
  | field => "field"
  | region => "region"

/-- The word for the kind on file. -/
def key : Kind → String
  | genericType => "generic_type"
  | kind => kind.label

/-- The kind with a given word on file. -/
def ofKey? (key : String) : Option Kind :=
  all.find? (fun kind => kind.key == key)

/-- Whether members of this kind own others. -/
def isContainer : Kind → Bool
  | global | classType | interfaceType | structType | enumType | genericType => true
  | _ => false

/-- Whether members of this kind take parameters. -/
def isCallable : Kind → Bool
  | constructor | method => true
  | _ => false

end Kind

/-! ## Ancestry -/

/-- The namespaces and the types a member is declared in, outermost first. -/
structure Ancestry where
  namespaces : List String := []
  types : List String := []
deriving DecidableEq, Repr

/-- Texts put together with a separator between them. -/
def joinTexts (separator : String) : List String → String
  | [] => ""
  | [text] => text
  | text :: texts => text ++ separator ++ joinTexts separator texts

namespace Ancestry

/-- The ancestry of a member of the file itself. -/
def root : Ancestry := {}

/-- Whether there is neither a namespace nor a type. -/
def isRoot (path : Ancestry) : Bool :=
  path.namespaces.isEmpty && path.types.isEmpty

/-- The number of enclosing types. -/
def depth (path : Ancestry) : Nat := path.types.length

/-- The ancestry of what is declared inside a type of that name. -/
def child (path : Ancestry) (name : String) : Ancestry :=
  { path with types := path.types ++ [name] }

/-- The namespaces, then a bar, then the types, each group with full stops
between its segments. The bar is left out when either group is empty. -/
def render (path : Ancestry) : String :=
  let namespaces := joinTexts "." path.namespaces
  let types := joinTexts "." path.types
  if namespaces.isEmpty then types
  else if types.isEmpty then namespaces
  else namespaces ++ "|" ++ types

end Ancestry

/-! ## Parameters and markers -/

/-- The parameter list of a callable member. -/
structure Signature where
  /-- The text between the parentheses, its words one space apart. -/
  parameters : String
  /-- Whether a title shows the parameters or a placeholder. -/
  shown : Bool
deriving DecidableEq, Repr

/-- The form of a parameter list inside a title. -/
def Signature.display (signature : Signature) : String :=
  if signature.shown then "(" ++ signature.parameters ++ ")" else "(...)"

/-- The two sides of a region. -/
inductive Boundary where
  | start
  | stop
deriving DecidableEq, Repr

/-- What a region marker says. -/
structure Marker where
  boundary : Boundary
  /-- The name of the region. A closing marker carries the name it closes. -/
  name : String
  /-- The number of regions around this one. -/
  depth : Nat
deriving DecidableEq, Repr

/-- The form of a marker inside a title. -/
def Marker.label (marker : Marker) : String :=
  match marker.boundary with
  | .start => "<" ++ marker.name ++ ">"
  | .stop => "</" ++ marker.name ++ ">"

/-! ## Members -/

/-- A declaration without what is declared inside it. Lines are counted from
zero, columns in bytes. -/
structure Entry where
  kind : Kind
  name : String
  signature : Option Signature := none
  startLine : Nat
  endLine : Option Nat := none
  column : Nat := 0
  parent : Ancestry := {}
  isPublic : Bool := true
  region : Option Marker := none
  /-- The identity of the member, empty as long as none is assigned. -/
  id : String := ""
  colorTag : Option String := none
deriving DecidableEq, Repr

namespace Entry

/-- The ancestry of what is declared inside this entry. -/
def childPath (entry : Entry) : Ancestry :=
  entry.parent.child entry.name

/-- The text shown for the entry: a marker's label, or the name with its
parameter list. -/
def title (entry : Entry) : String :=
  match entry.region with
  | some marker => marker.label
  | none =>
    match entry.signature with
    | some signature => entry.name ++ signature.display
    | none => entry.name

/-- The last line of the entry as far as it is known. -/
def lastLine (entry : Entry) : Nat :=
  entry.endLine.getD entry.startLine

end Entry

/-- A member: an entry and the members declared inside it. -/
inductive Member where
  | node (entry : Entry) (children : List Member)

/-- Members side by side. -/
abbrev Forest := List Member

namespace Member

/-- The declaration itself. -/
def entry : Member → Entry
  | node entry _ => entry

/-- The members declared inside. -/
def children : Member → Forest
  | node _ children => children

/-- A member without children. -/
def leaf (entry : Entry) : Member := node entry []

/-- The member that stands for a region marker on a line. -/
def ofMarker (marker : Marker) (line column : Nat) : Member :=
  leaf { kind := .region, name := marker.name, startLine := line, endLine := some line,
         column := column, region := some marker }

/-- Whether this member owns others. -/
def isContainer (member : Member) : Bool := member.entry.kind.isContainer

/-- The first line of the member. -/
def startLine (member : Member) : Nat := member.entry.startLine

/-- The greatest last line among members. -/
def lastLineOf? : Forest → Option Nat
  | [] => none
  | member :: rest =>
    match lastLineOf? rest with
    | some last => some (max member.entry.lastLine last)
    | none => some member.entry.lastLine

/-- The lines a member covers: up to its own last line, or else up to the last
line of a child. Unknown for a member with neither. -/
def bodyLines? (member : Member) : Option (Nat × Nat) :=
  match member.entry.endLine with
  | some last => some (member.startLine, last)
  | none => (lastLineOf? member.children).map fun last =>
      (member.startLine, max last member.startLine)

end Member

/-! ## Preorder -/

mutual

/-- The entries of a member and of everything below it, parents first. -/
def Member.entries : Member → List Entry
  | .node entry children => entry :: Forest.entries children

/-- The entries of a forest, parents first. -/
def Forest.entries : Forest → List Entry
  | [] => []
  | member :: rest => member.entries ++ Forest.entries rest

end

mutual

/-- A member with a function applied to every entry. -/
def Member.mapEntries (f : Entry → Entry) : Member → Member
  | .node entry children => .node (f entry) (Forest.mapEntries f children)

/-- A forest with a function applied to every entry. -/
def Forest.mapEntries (f : Entry → Entry) : Forest → Forest
  | [] => []
  | member :: rest => member.mapEntries f :: Forest.mapEntries f rest

end

/-- Members in the order of their first lines; members of one line keep their
order. -/
def Forest.sortByLine (forest : Forest) : Forest :=
  forest.mergeSort (fun a b => a.startLine ≤ b.startLine)

end SourceOutline
