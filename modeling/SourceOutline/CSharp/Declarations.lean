/-
The members a C# text declares, read off its syntax tree.

Namespaces and types make up the ancestry of a member. A namespace may be a block
or a line of its own; the latter reaches over everything after it. Types are
listed one after the other, each with its direct members, a nested type after the
one around it. Functions that stand outside every type are put together in one
container of their own.

Every line that goes into a member, a namespace span or a diagnostic is counted
from the first line of the text plus an offset, because the text may be cut out of
a larger one.
-/
import SourceOutline.CSharp.SyntaxTree
import SourceOutline.Mapping

set_option autoImplicit false

namespace SourceOutline.CSharp

/-- How declarations are read. -/
structure Reading where
  /-- The number of lines before the text. -/
  lineOffset : Nat := 0
  /-- Whether titles spell out parameter lists. -/
  showSignatures : Bool := true

/-! ## Parts of a declaration -/

/-- The text of the first child that plays a part, without the blanks around it. An
empty text is none. -/
def partText? (role : Role) (children : List SyntaxNode) : Option String := do
  let child ← children.find? (SyntaxNode.plays role)
  let text := Text.trim child.info.text.toList
  if text.isEmpty then none else return String.ofList text

/-- Whether a declaration says that it is public, or internal, which an outline
does not tell apart. -/
def isPublic (children : List SyntaxNode) : Bool :=
  children.any fun child =>
    child.kind == .modifier
      && ["public", "internal"].contains (String.ofList (Text.trim child.info.text.toList))

/-- The entry of a declaration. -/
def Reading.entry (reading : Reading) (info : NodeInfo) (kind : Kind) (name : String)
    (path : Ancestry) : Entry where
  kind := kind
  name := name
  startLine := info.start.row + reading.lineOffset
  endLine := some (info.stop.row + reading.lineOffset)
  column := info.start.column
  parent := path

/-- The kind of container a type declaration stands for. -/
def typeKind? : NodeKind → Option Kind
  | .classDeclaration | .recordDeclaration => some .classType
  | .structDeclaration => some .structType
  | .interfaceDeclaration => some .interfaceType
  | .enumDeclaration => some .enumType
  | _ => none

/-! ## Members of a type -/

/-- The parameters of a function: what stands between the parentheses, its words one
space apart. -/
def parametersOf (children : List SyntaxNode) : String :=
  match children.find? (SyntaxNode.plays .parameters) with
  | some child =>
    Text.collapse (String.ofList (Text.stripParens child.info.text.toList))
  | none => ""

/-- A constructor or a method. One without a name is passed over. -/
def Reading.callable (reading : Reading) (kind : Kind) (path : Ancestry) (node : SyntaxNode) :
    Forest :=
  match partText? .name node.children with
  | some name =>
    [.leaf { reading.entry node.info kind name path with
      isPublic := isPublic node.children
      signature := some ⟨parametersOf node.children, reading.showSignatures⟩ }]
  | none => []

/-- A property. One without a name is passed over. -/
def Reading.property (reading : Reading) (path : Ancestry) (node : SyntaxNode) : Forest :=
  match partText? .name node.children with
  | some name =>
    [.leaf { reading.entry node.info .property name path with
      isPublic := isPublic node.children }]
  | none => []

/-- The name a declarator introduces. A name that is left out counts as an empty
one. -/
def declaratorName? (children : List SyntaxNode) : Option String :=
  (partText? .name children).or
    ((children.find? fun child => child.kind == .identifier).map (·.info.text))

/-- The fields of a declaration, one for each name it introduces, all of them in the
place of the whole declaration. -/
def Reading.fields (reading : Reading) (path : Ancestry) (node : SyntaxNode) : Forest :=
  (node.children.filter (·.kind == .variableList)).flatMap fun list =>
    (list.children.filter (·.kind == .declarator)).flatMap fun declarator =>
      match declaratorName? declarator.children with
      | some name =>
        [.leaf { reading.entry node.info .field name path with
          isPublic := isPublic node.children }]
      | none => []

/-- The members one declaration of a body gives to the type around it. -/
def Reading.membersOf (reading : Reading) (path : Ancestry) (node : SyntaxNode) : Forest :=
  match node.kind with
  | .constructorDeclaration => reading.callable .constructor path node
  | .methodDeclaration => reading.callable .method path node
  | .propertyDeclaration => reading.property path node
  | .fieldDeclaration => reading.fields path node
  | _ => []

/-- The members of a type. -/
def Reading.typeMembers (reading : Reading) (path : Ancestry) (children : List SyntaxNode) :
    Forest :=
  match children.find? (SyntaxNode.plays .body) with
  | some body => body.children.flatMap (reading.membersOf path)
  | none => []

/-! ## Types -/

mutual

/-- The containers a type declaration stands for: the type itself and then those
declared inside it. A type without a name is passed over, with all it holds. -/
def Reading.typeContainers (reading : Reading) (path : Ancestry) : SyntaxNode → Forest
  | .node info children =>
    match typeKind? info.kind, partText? .name children with
    | some kind, some name =>
      let entry := reading.entry info kind name path
      if kind == .enumType then [.leaf entry]
      else .node entry (reading.typeMembers entry.childPath children)
        :: reading.bodyContainers entry.childPath children
    | _, _ => []

/-- The containers declared in the body among some nodes. -/
def Reading.bodyContainers (reading : Reading) (path : Ancestry) : List SyntaxNode → Forest
  | [] => []
  | .node info children :: rest =>
    if info.role == some .body then reading.containersOf path children
    else reading.bodyContainers path rest

/-- The containers that nodes side by side stand for. -/
def Reading.containersOf (reading : Reading) (path : Ancestry) : List SyntaxNode → Forest
  | [] => []
  | node :: rest => reading.typeContainers path node ++ reading.containersOf path rest

end

/-! ## Namespaces -/

/-- What is found on a walk through a text. -/
structure Findings where
  containers : Forest := []
  /-- Functions outside every type. -/
  globals : Forest := []
  spans : List NamespaceSpan := []

namespace Findings

/-- Findings of one stretch of text after those of another. -/
def append (a b : Findings) : Findings where
  containers := a.containers ++ b.containers
  globals := a.globals ++ b.globals
  spans := a.spans ++ b.spans

instance : Append Findings := ⟨append⟩

end Findings

/-- The ancestry inside a namespace. -/
def namespacePath (path : Ancestry) (children : List SyntaxNode) : Ancestry :=
  match partText? .name children with
  | some name =>
    let segments := ((Text.splitAt (· == '.') name.toList).map Text.trim).filter
      fun segment => !segment.isEmpty
    { path with namespaces := path.namespaces ++ segments.map String.ofList }
  | none => path

/-- The span of a namespace. A namespace without a name has none. -/
def Reading.span (reading : Reading) (path : Ancestry) (info : NodeInfo) (lastRow : Nat) :
    List NamespaceSpan :=
  if path.namespaces.isEmpty then []
  else [⟨path.namespaces, info.start.row + reading.lineOffset, lastRow + reading.lineOffset⟩]

/-- The name of the container for functions outside every type. -/
def globalName : String := "<global>"

/-- The functions a statement declares. -/
def Reading.globalFunctions (reading : Reading) (children : List SyntaxNode) : Forest :=
  (children.filter (·.kind == .localFunction)).flatMap
    (reading.callable .method (Ancestry.root.child globalName))

/-- The ancestry of what follows a node. A namespace line changes it. -/
def pathAfter (path : Ancestry) : SyntaxNode → Ancestry
  | .node info children =>
    match info.kind with
    | .namespaceLine => namespacePath path children
    | _ => path

mutual

/-- Walks through a node among nodes that end in some row. -/
def Reading.walkNode (reading : Reading) (lastRow : Nat) (path : Ancestry) :
    SyntaxNode → Findings
  | .node info children =>
    match info.kind with
    | .namespaceBlock =>
      let inner := namespacePath path children
      { spans := reading.span inner info info.stop.row } ++ reading.walkBody inner children
    | .namespaceLine =>
      let inner := namespacePath path children
      { spans := reading.span inner info lastRow } ++ reading.walk info.stop.row inner children
    | .globalStatement => { globals := reading.globalFunctions children }
    | .unreadable | .body => reading.walk info.stop.row path children
    | _ => { containers := reading.typeContainers path (.node info children) }

/-- Walks through nodes side by side, up to the row where they end. -/
def Reading.walk (reading : Reading) (lastRow : Nat) (path : Ancestry) :
    List SyntaxNode → Findings
  | [] => {}
  | node :: rest =>
    reading.walkNode lastRow path node ++ reading.walk lastRow (pathAfter path node) rest

/-- Walks through the body among some nodes. -/
def Reading.walkBody (reading : Reading) (path : Ancestry) : List SyntaxNode → Findings
  | [] => {}
  | .node info children :: rest =>
    if info.role == some .body then reading.walk info.stop.row path children
    else reading.walkBody path rest

end

/-- The container of the functions outside every type, if there are any. -/
def globalContainer : Forest → Forest
  | [] => []
  | first :: rest =>
    let functions := first :: rest
    [.node
      { kind := .global, name := globalName
        startLine := rest.foldl (fun line member => min line member.startLine) first.startLine
        endLine := Member.lastLineOf? functions }
      functions]

/-! ## Faults -/

/-- The diagnostic a node gives rise to. -/
def Reading.fault (reading : Reading) (info : NodeInfo) : List Diagnostic :=
  let remark (fault : Fault) := fault.at (info.start.row + reading.lineOffset) info.start.column
  match info.kind with
  | .unreadable => [remark .unreadable]
  | .missing token => [remark (.missing token)]
  | _ => []

mutual

/-- The faults in a node, in the order of the text. -/
def Reading.faults (reading : Reading) : SyntaxNode → List Diagnostic
  | .node info children => reading.fault info ++ reading.faultsOf children

/-- The faults in nodes side by side. -/
def Reading.faultsOf (reading : Reading) : List SyntaxNode → List Diagnostic
  | [] => []
  | node :: rest => reading.faults node ++ reading.faultsOf rest

end

/-! ## The mapping of a tree -/

/-- What the tree of a text says about its members. -/
def Reading.mapping (reading : Reading) (tree : SyntaxNode) : Mapping :=
  let found := reading.walk tree.info.stop.row .root tree.children
  { members := Forest.sortByLine (found.containers ++ globalContainer found.globals)
    errors := reading.faults tree
    codeStartLine := some reading.lineOffset
    spans := found.spans }

end SourceOutline.CSharp
