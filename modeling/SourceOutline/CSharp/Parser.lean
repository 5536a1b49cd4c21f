/-
Reading C#. The text is read by the parser for the grammar, and of the tree it comes to
only the nodes are kept that an outline asks for, or that hold a fault.
-/
import SourceOutline.CSharp.Grammar
import SourceOutline.CSharp.Scanner
import SourceOutline.CSharp.SyntaxTree
import SourceOutline.Grammar.Preparation
import SourceOutline.Parsing.Node

set_option autoImplicit false

namespace SourceOutline.CSharp

open Automaton (Table)
open Parsing (Extent Machine Node)

/-- What it takes to read C#. The table is large, so it is worked out when it is needed for
the first time. -/
def machine : Thunk (Machine (Option StringMemory)) :=
  .mk fun _ => ⟨Table.ofGrammar description.toGrammar, scanner⟩

/-! ## What nodes stand for -/

/-- The place of an extent. -/
def positionOf (extent : Extent) : Position := ⟨extent.rows, extent.columns⟩

/-- What the nodes of a name stand for. -/
def kindOfName : String → NodeKind
  | "compilation_unit" => .unit
  | "namespace_declaration" => .namespaceBlock
  | "file_scoped_namespace_declaration" => .namespaceLine
  | "global_statement" => .globalStatement
  | "declaration_list" => .body
  | "class_declaration" => .classDeclaration
  | "record_declaration" => .recordDeclaration
  | "struct_declaration" => .structDeclaration
  | "interface_declaration" => .interfaceDeclaration
  | "enum_declaration" => .enumDeclaration
  | "constructor_declaration" => .constructorDeclaration
  | "method_declaration" => .methodDeclaration
  | "property_declaration" => .propertyDeclaration
  | "field_declaration" => .fieldDeclaration
  | "variable_declaration" => .variableList
  | "variable_declarator" => .declarator
  | "local_function_statement" => .localFunction
  | "modifier" => .modifier
  | "identifier" => .identifier
  | _ => .other

/-- What a node stands for. -/
def kindOf {σ : Type} (table : Table) (n : Node σ) : NodeKind :=
  match n.name? table with
  | some name => if n.tree.info.isMissing then .missing name else kindOfName name
  | none => .unreadable

/-- The name of the field for a part that a node plays. -/
def Role.field : Role → String
  | name => "name"
  | body => "body"
  | parameters => "parameters"

/-- Whether two nodes are the same, given that both lie in the same node. -/
def isSameNode {σ : Type} (a b : Node σ) : Bool :=
  a.place.bytes = b.place.bytes && a.tree.label = b.tree.label && a.stop.bytes = b.stop.bytes

/-- The parts that the children of a node play. -/
def rolesOf {σ : Type} (table : Table) (n : Node σ) : List (Role × Node σ) :=
  [Role.name, .body, .parameters].filterMap fun role =>
    (n.field? table role.field).map fun child => (role, child)

/-- The part that a child plays. -/
def roleOf {σ : Type} (roles : List (Role × Node σ)) (child : Node σ) : Option Role :=
  (roles.find? fun one => isSameNode one.2 child).map Prod.fst

/-- Whether the text of a node matters. -/
def hasText (kind : NodeKind) (role : Option Role) : Bool :=
  role = some .name || role = some .parameters || kind = .modifier || kind = .identifier

/-- The nodes of a tree that an outline asks for, or that hold a fault. The fuel bounds the
depth. -/
def convert {σ : Type} (table : Table) (source : String) :
    Nat → Option Role → Node σ → SyntaxNode
  | 0, role, n => .node ⟨.other, role, positionOf n.start, positionOf n.stop, ""⟩ []
  | fuel + 1, role, n =>
    let kind := kindOf table n
    let roles := rolesOf table n
    let children := (n.children table).filterMap fun child =>
      let role := roleOf roles child
      if role.isNone && child.tree.cost = 0 && kindOf table child = .other then none
      else some (convert table source fuel role child)
    .node
      { kind, role
        start := positionOf n.start
        stop := positionOf n.stop
        text := if hasText kind role then n.text source else "" }
      children

/-- The syntax tree of a text. -/
def parseWith {σ : Type} [DecidableEq σ] (machine : Machine σ) (source : String) : SyntaxNode :=
  match machine.parse source with
  | some tree =>
    convert machine.table source (tree.info.visibleInside + 1) none { tree }
  | none => .node { kind := .unreadable, start := {}, stop := {} } []

/-- The syntax tree of a text. -/
def parse (source : String) : SyntaxNode := parseWith machine.get source

end SourceOutline.CSharp
