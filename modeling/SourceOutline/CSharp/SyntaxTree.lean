/-
Syntax trees of C#, reduced to what an outline asks for: declarations, their
names, modifiers, parameter lists and bodies, and the places where the text does
not follow the grammar.

The tree is the seam between reading a text and listing its members. What is said
about the list holds for every tree, however it was come by.
-/

set_option autoImplicit false

namespace SourceOutline.CSharp

/-- A place in a text: the line, counted from zero, and the bytes before it on that
line. -/
structure Position where
  row : Nat := 0
  column : Nat := 0
deriving DecidableEq, Repr

/-- What a node stands for. -/
inductive NodeKind where
  /-- The whole text. -/
  | unit
  | namespaceBlock
  /-- A namespace that reaches to the end of what it stands in. -/
  | namespaceLine
  /-- A statement outside every type. -/
  | globalStatement
  /-- The declarations between two braces. -/
  | body
  | classDeclaration
  | recordDeclaration
  | structDeclaration
  | interfaceDeclaration
  | enumDeclaration
  | constructorDeclaration
  | methodDeclaration
  | propertyDeclaration
  | fieldDeclaration
  /-- The part of a field declaration after its modifiers. -/
  | variableList
  /-- One of the names a field declaration introduces, with its value. -/
  | declarator
  /-- A function declared by a statement. -/
  | localFunction
  | modifier
  | identifier
  /-- A stretch of text that fits nowhere. -/
  | unreadable
  /-- A token that is not in the text but has to be. -/
  | missing (token : String)
  /-- Anything else that plays a part or holds a fault. -/
  | other
deriving DecidableEq, Repr

/-- The part a node plays in the node around it. -/
inductive Role where
  | name
  | body
  | parameters
deriving DecidableEq, Repr

/-- Everything about a node but its children. -/
structure NodeInfo where
  kind : NodeKind
  role : Option Role := none
  start : Position
  stop : Position
  /-- The text of the node, for the kinds whose text matters. -/
  text : String := ""
deriving DecidableEq, Repr

/-- A node with its children, in the order of the text. -/
inductive SyntaxNode where
  | node (info : NodeInfo) (children : List SyntaxNode)

namespace SyntaxNode

/-- What the node is. -/
def info : SyntaxNode → NodeInfo
  | node info _ => info

/-- The nodes inside. -/
def children : SyntaxNode → List SyntaxNode
  | node _ children => children

/-- What the node stands for. -/
def kind (node : SyntaxNode) : NodeKind := node.info.kind

/-- Whether the node plays that part. -/
def plays (role : Role) (node : SyntaxNode) : Bool := node.info.role == some role

end SyntaxNode

end SourceOutline.CSharp
