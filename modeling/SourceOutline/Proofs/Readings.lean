/-
Two ways to read the declarations of one tree.

A `CSharp.Reading` settles two things about the members of a text: how many lines come
before it, and whether titles spell out parameter lists. A tree that is read in two ways
therefore gives the same members, but for their lines and for how they show their
parameters. `CSharp.Reading.Retells` says which function takes an entry of the one reading
to its entry in the other, and `CSharp.Reading.Retells.mapping_eq` that this function,
applied to every entry at every level, takes the one mapping to the other.

The number of lines is added where an entry, a span or a diagnostic is made. The container
of the functions outside every type is not one of them: its lines are the least and the
greatest line of the functions in it, which are shifted already.
-/
import SourceOutline.CSharp.Declarations
import SourceOutline.Proofs.Forest

set_option autoImplicit false

namespace SourceOutline

/-! ## Further down -/

/-- The entry of a text that stands some lines further down. -/
def Entry.shift (lines : Nat) (entry : Entry) : Entry :=
  { entry with
    startLine := entry.startLine + lines
    endLine := entry.endLine.map (· + lines) }

/-- A remark on a text that stands some lines further down. -/
def Diagnostic.shift (lines : Nat) (diagnostic : Diagnostic) : Diagnostic :=
  { diagnostic with line := diagnostic.line + lines }

/-- The span of a namespace in a text that stands some lines further down. -/
def NamespaceSpan.shift (lines : Nat) (span : NamespaceSpan) : NamespaceSpan :=
  { span with startLine := span.startLine + lines, endLine := span.endLine + lines }

/-- A mapping told anew: its entries changed, and all else some lines further down. -/
def Mapping.retold (change : Entry → Entry) (lines : Nat) (mapping : Mapping) : Mapping where
  members := mapping.members.map (Member.mapEntries change)
  errors := mapping.errors.map (Diagnostic.shift lines)
  codeStartLine := mapping.codeStartLine.map (· + lines)
  spans := mapping.spans.map (NamespaceSpan.shift lines)

/-- The mapping of a text that stands some lines further down. -/
def Mapping.shift (lines : Nat) : Mapping → Mapping := Mapping.retold (Entry.shift lines) lines

@[simp] theorem Diagnostic.shift_zero (diagnostic : Diagnostic) : diagnostic.shift 0 = diagnostic :=
  rfl

@[simp] theorem NamespaceSpan.shift_zero (span : NamespaceSpan) : span.shift 0 = span := rfl

@[simp] theorem Entry.shift_zero (entry : Entry) : entry.shift 0 = entry := by
  simp [Entry.shift]

/-- Where nothing is shifted, only the members are told anew. -/
theorem Mapping.retold_zero (change : Entry → Entry) (mapping : Mapping) :
    mapping.retold change 0
      = { mapping with members := mapping.members.map (Member.mapEntries change) } := by
  have hspans : mapping.spans.map (NamespaceSpan.shift 0) = mapping.spans :=
    List.map_id'' NamespaceSpan.shift_zero _
  have herrors : mapping.errors.map (Diagnostic.shift 0) = mapping.errors :=
    List.map_id'' Diagnostic.shift_zero _
  rw [Mapping.retold, hspans, herrors]
  simp

theorem Fault.at_shift (fault : Fault) (line column lines : Nat) :
    (fault.at line column).shift lines = fault.at (line + lines) column := by
  cases fault <;> rfl

theorem Member.mapEntries_leaf (change : Entry → Entry) (entry : Entry) :
    (Member.leaf entry).mapEntries change = .leaf (change entry) := rfl

theorem Member.mapEntries_node (change : Entry → Entry) (entry : Entry) (children : Forest) :
    (Member.node entry children).mapEntries change
      = .node (change entry) (children.map (Member.mapEntries change)) := by
  rw [Member.mapEntries, Forest.mapEntries_eq_map]

theorem Member.lastLineOf?_mapEntries {change : Entry → Entry} {lines : Nat}
    (hlast : ∀ entry, (change entry).lastLine = entry.lastLine + lines) (forest : Forest) :
    Member.lastLineOf? (forest.map (Member.mapEntries change))
      = (Member.lastLineOf? forest).map (· + lines) := by
  induction forest with
  | nil => rfl
  | cons member rest ih =>
    rw [List.map_cons, Member.lastLineOf?, ih, Member.lastLineOf?, Member.entry_mapEntries, hlast]
    cases Member.lastLineOf? rest with
    | none => rfl
    | some last => simp only [Option.map_some, Nat.add_max_add_right]

/-- The least first line among members that all move by the same number of lines. -/
theorem Member.foldl_min_mapEntries {change : Entry → Entry} {lines : Nat}
    (hstart : ∀ entry, (change entry).startLine = entry.startLine + lines) (forest : Forest)
    (least : Nat) :
    (forest.map (Member.mapEntries change)).foldl (fun line member => min line member.startLine)
        (least + lines)
      = forest.foldl (fun line member => min line member.startLine) least + lines := by
  induction forest generalizing least with
  | nil => rfl
  | cons member rest ih =>
    rw [List.map_cons, List.foldl_cons, Member.startLine, Member.entry_mapEntries, hstart,
      Nat.add_min_add_right, ih, List.foldl_cons, Member.startLine]

namespace CSharp

/-! ## Two readings -/

/-- The second reading makes of an entry of the first what `change` makes of it, with every
line some lines further down. -/
structure Reading.Retells (change : Entry → Entry) (lines : Nat) (reading reading' : Reading) :
    Prop where
  lineOffset : reading'.lineOffset = reading.lineOffset + lines
  /-- Where there are no parameters only the lines change. -/
  plain : ∀ entry, entry.signature = none → change entry = entry.shift lines
  /-- Where there are, they are shown as the reading says. -/
  callable : ∀ (entry : Entry) (parameters : String),
    change { entry with signature := some ⟨parameters, reading.showSignatures⟩ }
      = { entry.shift lines with signature := some ⟨parameters, reading'.showSignatures⟩ }
  startLine : ∀ entry, (change entry).startLine = entry.startLine + lines
  lastLine : ∀ entry, (change entry).lastLine = entry.lastLine + lines

namespace Reading.Retells

variable {change : Entry → Entry} {lines : Nat} {reading reading' : Reading}

/-! ## Members of a type -/

/-- The entry of a declaration, before its parameters are known. -/
theorem entry_eq (h : Retells change lines reading reading') (info : NodeInfo) (kind : Kind)
    (name : String) (path : Ancestry) :
    reading'.entry info kind name path = (reading.entry info kind name path).shift lines := by
  simp only [Reading.entry, Entry.shift, h.lineOffset, Option.map_some, Nat.add_assoc]

theorem callable_eq (h : Retells change lines reading reading') (kind : Kind) (path : Ancestry)
    (node : SyntaxNode) :
    reading'.callable kind path node
      = (reading.callable kind path node).map (Member.mapEntries change) := by
  rw [Reading.callable, Reading.callable]
  split
  · rename_i name _
    rw [List.map_singleton, Member.mapEntries_leaf, h.entry_eq]
    exact congrArg (fun entry => [Member.leaf entry]) (h.callable
      { reading.entry node.info kind name path with isPublic := isPublic node.children } _).symm
  · rfl

/-- A member without parameters. -/
theorem leaf_eq (h : Retells change lines reading reading') (info : NodeInfo) (kind : Kind)
    (name : String) (path : Ancestry) (shared : Bool) :
    Member.leaf { reading'.entry info kind name path with isPublic := shared }
      = (Member.leaf { reading.entry info kind name path with isPublic := shared }).mapEntries
        change := by
  rw [Member.mapEntries_leaf, h.plain _ rfl, h.entry_eq]
  rfl

theorem property_eq (h : Retells change lines reading reading') (path : Ancestry)
    (node : SyntaxNode) :
    reading'.property path node = (reading.property path node).map (Member.mapEntries change) := by
  rw [Reading.property, Reading.property]
  split
  · rw [List.map_singleton, h.leaf_eq]
  · rfl

theorem fields_eq (h : Retells change lines reading reading') (path : Ancestry)
    (node : SyntaxNode) :
    reading'.fields path node = (reading.fields path node).map (Member.mapEntries change) := by
  rw [Reading.fields, Reading.fields, List.map_flatMap]
  congr 1
  funext list
  rw [List.map_flatMap]
  congr 1
  funext declarator
  split
  · rw [List.map_singleton, h.leaf_eq]
  · rfl

theorem membersOf_eq (h : Retells change lines reading reading') (path : Ancestry)
    (node : SyntaxNode) :
    reading'.membersOf path node
      = (reading.membersOf path node).map (Member.mapEntries change) := by
  rw [Reading.membersOf, Reading.membersOf]
  split
  · exact h.callable_eq .constructor path node
  · exact h.callable_eq .method path node
  · exact h.property_eq path node
  · exact h.fields_eq path node
  · rfl

theorem typeMembers_eq (h : Retells change lines reading reading') (path : Ancestry)
    (children : List SyntaxNode) :
    reading'.typeMembers path children
      = (reading.typeMembers path children).map (Member.mapEntries change) := by
  rw [Reading.typeMembers, Reading.typeMembers]
  split
  · rw [List.map_flatMap]
    congr 1
    funext node
    exact h.membersOf_eq path node
  · rfl

/-! ## Types

A change leaves the ancestry of what is inside a type as it is, because it is read off the
entry before the change. -/

mutual

/-- **The containers of a type.** -/
theorem typeContainers_eq (h : Retells change lines reading reading') (path : Ancestry) :
    (node : SyntaxNode) → reading'.typeContainers path node
      = (reading.typeContainers path node).map (Member.mapEntries change)
  | .node info children => by
    rw [Reading.typeContainers, Reading.typeContainers]
    split
    · rename_i kind name _ _
      have hentry : reading'.entry info kind name path
          = change (reading.entry info kind name path) := by
        rw [h.entry_eq, h.plain _ rfl]
      have hpath : (reading'.entry info kind name path).childPath
          = (reading.entry info kind name path).childPath := rfl
      dsimp only
      rw [hpath]
      split
      · -- An enumeration has no members.
        rw [hentry, List.map_singleton, Member.mapEntries_leaf]
      · rw [hentry, List.map_cons, Member.mapEntries_node, h.typeMembers_eq,
          bodyContainers_eq h _ children]
    · rfl

theorem bodyContainers_eq (h : Retells change lines reading reading') (path : Ancestry) :
    (nodes : List SyntaxNode) → reading'.bodyContainers path nodes
      = (reading.bodyContainers path nodes).map (Member.mapEntries change)
  | [] => rfl
  | .node info children :: rest => by
    rw [Reading.bodyContainers, Reading.bodyContainers]
    split
    · exact containersOf_eq h path children
    · exact bodyContainers_eq h path rest

theorem containersOf_eq (h : Retells change lines reading reading') (path : Ancestry) :
    (nodes : List SyntaxNode) → reading'.containersOf path nodes
      = (reading.containersOf path nodes).map (Member.mapEntries change)
  | [] => rfl
  | node :: rest => by
    rw [Reading.containersOf, Reading.containersOf, typeContainers_eq h path node,
      containersOf_eq h path rest, List.map_append]

end

end Reading.Retells

/-! ## The walk -/

/-- Findings told anew. -/
def Findings.retold (change : Entry → Entry) (lines : Nat) (found : Findings) : Findings where
  containers := found.containers.map (Member.mapEntries change)
  globals := found.globals.map (Member.mapEntries change)
  spans := found.spans.map (NamespaceSpan.shift lines)

theorem Findings.retold_append (change : Entry → Entry) (lines : Nat) (found found' : Findings) :
    (found ++ found').retold change lines
      = found.retold change lines ++ found'.retold change lines := by
  have happend : ∀ a b : Findings, a ++ b = a.append b := fun _ _ => rfl
  simp only [happend, Findings.retold, Findings.append, List.map_append]

namespace Reading.Retells

variable {change : Entry → Entry} {lines : Nat} {reading reading' : Reading}

theorem globalFunctions_eq (h : Retells change lines reading reading')
    (children : List SyntaxNode) :
    reading'.globalFunctions children
      = (reading.globalFunctions children).map (Member.mapEntries change) := by
  rw [Reading.globalFunctions, Reading.globalFunctions, List.map_flatMap]
  congr 1
  funext node
  exact h.callable_eq .method _ node

theorem span_eq (h : Retells change lines reading reading') (path : Ancestry) (info : NodeInfo)
    (lastRow : Nat) :
    reading'.span path info lastRow
      = (reading.span path info lastRow).map (NamespaceSpan.shift lines) := by
  rw [Reading.span, Reading.span]
  split
  · rfl
  · simp only [List.map_singleton, NamespaceSpan.shift, h.lineOffset, Nat.add_assoc]

mutual

/-- **The walk through a node.** -/
theorem walkNode_eq (h : Retells change lines reading reading') (lastRow : Nat)
    (path : Ancestry) :
    (node : SyntaxNode) → reading'.walkNode lastRow path node
      = (reading.walkNode lastRow path node).retold change lines
  | .node info children => by
    rw [Reading.walkNode, Reading.walkNode]
    split
    · dsimp only
      rw [Findings.retold_append, walkBody_eq h _ children, h.span_eq]
      rfl
    · dsimp only
      rw [Findings.retold_append, walk_eq h info.stop.row _ children, h.span_eq]
      rfl
    · rw [h.globalFunctions_eq]
      rfl
    · exact walk_eq h info.stop.row path children
    · exact walk_eq h info.stop.row path children
    · rw [h.typeContainers_eq]
      rfl

theorem walk_eq (h : Retells change lines reading reading') (lastRow : Nat) (path : Ancestry) :
    (nodes : List SyntaxNode) → reading'.walk lastRow path nodes
      = (reading.walk lastRow path nodes).retold change lines
  | [] => rfl
  | node :: rest => by
    rw [Reading.walk, Reading.walk, walkNode_eq h lastRow path node, walk_eq h lastRow _ rest,
      Findings.retold_append]

theorem walkBody_eq (h : Retells change lines reading reading') (path : Ancestry) :
    (nodes : List SyntaxNode) → reading'.walkBody path nodes
      = (reading.walkBody path nodes).retold change lines
  | [] => rfl
  | .node info children :: rest => by
    rw [Reading.walkBody, Reading.walkBody]
    split
    · exact walk_eq h info.stop.row path children
    · exact walkBody_eq h path rest

end

/-! ## Faults -/

theorem fault_eq (h : Retells change lines reading reading') (info : NodeInfo) :
    reading'.fault info = (reading.fault info).map (Diagnostic.shift lines) := by
  rw [Reading.fault, Reading.fault]
  dsimp only
  split <;> simp only [List.map_singleton, List.map_nil, Fault.at_shift, h.lineOffset, Nat.add_assoc]

mutual

theorem faults_eq (h : Retells change lines reading reading') :
    (node : SyntaxNode) → reading'.faults node
      = (reading.faults node).map (Diagnostic.shift lines)
  | .node info children => by
    rw [Reading.faults, Reading.faults, h.fault_eq, faultsOf_eq h children, List.map_append]

theorem faultsOf_eq (h : Retells change lines reading reading') :
    (nodes : List SyntaxNode) → reading'.faultsOf nodes
      = (reading.faultsOf nodes).map (Diagnostic.shift lines)
  | [] => rfl
  | node :: rest => by
    rw [Reading.faultsOf, Reading.faultsOf, faults_eq h node, faultsOf_eq h rest, List.map_append]

end

/-! ## The mapping of a tree -/

/-- Members that all move by the same number of lines stay in order. -/
theorem keepsOrder (h : Retells change lines reading reading') : KeepsOrder change := by
  intro first second
  rw [h.startLine, h.startLine, Nat.add_le_add_iff_right]

/-- The container of functions outside every type has the lines of its functions. -/
theorem globalContainer_eq (h : Retells change lines reading reading') (globals : Forest) :
    globalContainer (globals.map (Member.mapEntries change))
      = (globalContainer globals).map (Member.mapEntries change) := by
  cases globals with
  | nil => rfl
  | cons first rest =>
    -- The container has no parameters, so its entry is the shifted one, and both of its lines
    -- come from functions that are shifted as far.
    have hlast := Member.lastLineOf?_mapEntries h.lastLine (first :: rest)
    rw [List.map_cons] at hlast
    rw [List.map_cons, globalContainer, globalContainer, hlast, List.map_singleton,
      Member.mapEntries_node, h.plain _ rfl, Member.startLine, Member.entry_mapEntries,
      h.startLine, Member.foldl_min_mapEntries h.startLine]
    rfl

/-- **A tree that is read anew is told anew**: members at every level, remarks, spans and
the first line of the code. -/
theorem mapping_eq (h : Retells change lines reading reading') (tree : SyntaxNode) :
    reading'.mapping tree = (reading.mapping tree).retold change lines := by
  rw [Reading.mapping, Reading.mapping, h.walk_eq, h.faults_eq, h.lineOffset]
  dsimp only [Findings.retold, Mapping.retold]
  rw [h.globalContainer_eq, ← List.map_append, h.keepsOrder.sortByLine_map]
  rfl

end Reading.Retells

/-! ## The same text further down -/

/-- With more lines before the text, every entry is as many lines further down. -/
theorem Reading.retells_shift (reading : Reading) (lines : Nat) :
    Retells (Entry.shift lines) lines reading
      { reading with lineOffset := reading.lineOffset + lines } where
  lineOffset := rfl
  plain := fun _ _ => rfl
  callable := fun _ _ => rfl
  startLine := fun _ => rfl
  lastLine := by
    intro entry
    rw [Entry.lastLine, Entry.lastLine, Entry.shift]
    cases entry.endLine <;> rfl

end CSharp

end SourceOutline
