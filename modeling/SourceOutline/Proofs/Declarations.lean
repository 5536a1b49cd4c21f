/-
What a syntax tree declares keeps the contract of a mapper.

The walk through a tree lists a type, then the types inside it, and hands the child
path of the type down to them. So every container has either the ancestry the walk was
started with or the child path of one that was listed before it, whatever the tree looks
like (`ListedUnder`). Namespaces add nothing to the types of an ancestry, and a walk is
started outside every type.

Lines are as good as those of the tree. In document order a node begins no earlier than
the nodes before it and around it, which is to say that the nodes in preorder are in the
order of their rows. The members of a type stand in its body, side by side; functions
outside every type may be found anywhere, but they are found in preorder, so their rows
are some of the rows of the tree, in the same order (`Findings.Sound.lines`).
-/
import SourceOutline.CSharp.Declarations
import SourceOutline.Proofs.Listing

set_option autoImplicit false

namespace SourceOutline.CSharp

open scoped List

/-! ## Document order -/

mutual

/-- The nodes of a tree in preorder. -/
def SyntaxNode.infos : SyntaxNode → List NodeInfo
  | .node info children => info :: SyntaxNode.infosOf children

/-- The nodes of trees side by side, in preorder. -/
def SyntaxNode.infosOf : List SyntaxNode → List NodeInfo
  | [] => []
  | first :: rest => first.infos ++ SyntaxNode.infosOf rest

end

/-- Nodes that begin one after the other and end no earlier than they begin. -/
structure DocumentOrder (infos : List NodeInfo) : Prop where
  ordered : infos.Pairwise fun first second => first.start.row ≤ second.start.row
  upright : ∀ info ∈ infos, info.start.row ≤ info.stop.row

/-- A tree in document order: no node begins before one that comes before it or that it is
part of, and none ends before it begins. -/
def SyntaxNode.InDocumentOrder (tree : SyntaxNode) : Prop := DocumentOrder tree.infos

theorem DocumentOrder.sublist {infos part : List NodeInfo} (h : DocumentOrder infos)
    (hpart : part <+ infos) : DocumentOrder part :=
  ⟨h.ordered.sublist hpart, fun info hinfo => h.upright info (hpart.subset hinfo)⟩

theorem SyntaxNode.infosOf_eq_flatMap (nodes : List SyntaxNode) :
    SyntaxNode.infosOf nodes = nodes.flatMap SyntaxNode.infos := by
  induction nodes with
  | nil => rfl
  | cons node rest ih => rw [SyntaxNode.infosOf, ih, List.flatMap_cons]

theorem SyntaxNode.infos_eq (node : SyntaxNode) :
    node.infos = node.info :: SyntaxNode.infosOf node.children := by
  cases node with
  | node info children => rfl

theorem SyntaxNode.infosOf_children_sublist (node : SyntaxNode) :
    SyntaxNode.infosOf node.children <+ node.infos := by
  rw [node.infos_eq]
  exact List.sublist_cons_self _ _

theorem SyntaxNode.infos_sublist_of_mem {node : SyntaxNode} {nodes : List SyntaxNode}
    (h : node ∈ nodes) : node.infos <+ SyntaxNode.infosOf nodes := by
  rw [SyntaxNode.infosOf_eq_flatMap]
  exact List.sublist_flatten_of_mem (List.mem_map_of_mem h)

/-- Nodes side by side are some of the nodes in preorder. -/
theorem SyntaxNode.map_info_sublist (nodes : List SyntaxNode) :
    nodes.map SyntaxNode.info <+ SyntaxNode.infosOf nodes := by
  induction nodes with
  | nil => exact .slnil
  | cons node rest ih =>
    rw [List.map_cons, SyntaxNode.infosOf, node.infos_eq, List.cons_append]
    exact (ih.trans (List.sublist_append_right _ _)).cons_cons _

/-! ## Members of a type -/

/-- A direct member that stands on the lines of a node. -/
structure Reading.Yields (reading : Reading) (path : Ancestry) (info : NodeInfo)
    (member : Member) : Prop where
  direct : member.Direct path
  line : member.startLine = info.start.row + reading.lineOffset
  settled : info.start.row ≤ info.stop.row → member.Settled

theorem Reading.upright_entry (reading : Reading) {info : NodeInfo}
    (h : info.start.row ≤ info.stop.row) (kind : Kind) (name : String) (path : Ancestry) :
    (reading.entry info kind name path).Upright := by
  intro last hlast
  cases hlast
  exact Nat.add_le_add_right h _

/-- Visibility and parameters make no difference. -/
theorem Reading.yields_leaf (reading : Reading) (path : Ancestry) (info : NodeInfo) {kind : Kind}
    (hplain : kind.isContainer = false) (hunmarked : kind ≠ .region) (name : String)
    (isPublic : Bool) (signature : Option Signature) :
    reading.Yields path info
      (.leaf { reading.entry info kind name path with
        isPublic := isPublic, signature := signature }) :=
  ⟨⟨hplain, hunmarked, rfl⟩, rfl, fun h => .leaf (reading.upright_entry h kind name path)⟩

theorem Reading.yields_callable (reading : Reading) (path : Ancestry) {kind : Kind}
    (hkind : kind = .constructor ∨ kind = .method) (node : SyntaxNode) {member : Member}
    (h : member ∈ reading.callable kind path node) : reading.Yields path node.info member := by
  rw [Reading.callable] at h
  split at h
  · rw [List.mem_singleton.1 h]
    rcases hkind with rfl | rfl <;>
      exact reading.yields_leaf path node.info rfl (by decide) _ _ _
  · cases h

/-- A function gives one member or none. -/
theorem Reading.map_startLine_callable (reading : Reading) (kind : Kind) (path : Ancestry)
    (node : SyntaxNode) :
    (reading.callable kind path node).map Member.startLine
      <+ [node.info.start.row + reading.lineOffset] := by
  rw [Reading.callable]
  split
  · exact .refl _
  · exact List.nil_sublist _

/-- **What one declaration of a body gives.** -/
theorem Reading.yields_membersOf (reading : Reading) (path : Ancestry) (node : SyntaxNode)
    {member : Member} (h : member ∈ reading.membersOf path node) :
    reading.Yields path node.info member := by
  rw [Reading.membersOf] at h
  split at h
  · exact reading.yields_callable path (.inl rfl) node h
  · exact reading.yields_callable path (.inr rfl) node h
  · rw [Reading.property] at h
    split at h
    · rw [List.mem_singleton.1 h]
      exact reading.yields_leaf path node.info rfl (by decide) _ _ none
    · cases h
  · -- Every name of a field declaration stands on the lines of the whole declaration.
    rw [Reading.fields] at h
    obtain ⟨list, -, h⟩ := List.mem_flatMap.1 h
    obtain ⟨declarator, -, h⟩ := List.mem_flatMap.1 h
    split at h
    · rw [List.mem_singleton.1 h]
      exact reading.yields_leaf path node.info rfl (by decide) _ _ none
    · cases h
  · cases h

theorem Reading.mem_typeMembers (reading : Reading) {path : Ancestry} {children : List SyntaxNode}
    {member : Member} (h : member ∈ reading.typeMembers path children) :
    ∃ info ∈ SyntaxNode.infosOf children, reading.Yields path info member := by
  rw [Reading.typeMembers] at h
  split at h
  · rename_i body hbody
    obtain ⟨node, hnode, hmember⟩ := List.mem_flatMap.1 h
    refine ⟨node.info, ?_, reading.yields_membersOf path node hmember⟩
    have hbody' := SyntaxNode.infos_sublist_of_mem (List.mem_of_find?_eq_some hbody)
    refine (body.infosOf_children_sublist.trans hbody').subset ?_
    exact (SyntaxNode.map_info_sublist _).subset (List.mem_map_of_mem hnode)
  · cases h

/-- The members of a type are in the order of the declarations they come from. -/
theorem Reading.inLineOrder_typeMembers (reading : Reading) (path : Ancestry)
    {children : List SyntaxNode} (h : DocumentOrder (SyntaxNode.infosOf children)) :
    (reading.typeMembers path children).InLineOrder := by
  rw [Reading.typeMembers]
  split
  · rename_i body hbody
    have hsub := body.infosOf_children_sublist.trans
      (SyntaxNode.infos_sublist_of_mem (List.mem_of_find?_eq_some hbody))
    have hrows := ((h.sublist hsub).sublist (SyntaxNode.map_info_sublist body.children)).ordered
    rw [List.pairwise_map] at hrows
    -- The members of one declaration are all on its line, and those of two are in the order
    -- of the declarations.
    refine List.pairwise_flatMap.2 ⟨?_, hrows.imp ?_⟩
    · intro node _
      refine List.pairwise_of_forall_mem_list fun first hfirst second hsecond => ?_
      have hline := (reading.yields_membersOf path node hfirst).line
      have hline' := (reading.yields_membersOf path node hsecond).line
      exact Nat.le_of_eq (hline.trans hline'.symm)
    · intro node node' hle first hfirst second hsecond
      rw [(reading.yields_membersOf path node hfirst).line,
        (reading.yields_membersOf path node' hsecond).line]
      exact Nat.add_le_add_right hle _
  · exact .nil

/-! ## Types -/

/-- Containers that were found among some nodes. Each stands in no type, or in one of them,
or in what the walk was started in. -/
structure ListedUnder (outer : Ancestry → Prop) (infos : List NodeInfo) (forest : Forest) :
    Prop where
  listed : ∀ member ∈ forest, member.Listed fun path => outer path ∨ path ∈ forest.owners
  container : ∀ member ∈ forest, member.isContainer = true
  settled : DocumentOrder infos → ∀ member ∈ forest, member.Settled

theorem ListedUnder.nil (outer : Ancestry → Prop) (infos : List NodeInfo) :
    ListedUnder outer infos [] :=
  ⟨List.forall_mem_nil _, List.forall_mem_nil _, fun _ => List.forall_mem_nil _⟩

theorem ListedUnder.sublist {outer : Ancestry → Prop} {infos part : List NodeInfo}
    {forest : Forest} (h : ListedUnder outer part forest) (hpart : part <+ infos) :
    ListedUnder outer infos forest :=
  ⟨h.listed, h.container, fun horder => h.settled (horder.sublist hpart)⟩

theorem ListedUnder.append {outer : Ancestry → Prop} {infos infos' : List NodeInfo}
    {forest forest' : Forest} (h : ListedUnder outer infos forest)
    (h' : ListedUnder outer infos' forest') :
    ListedUnder outer (infos ++ infos') (forest ++ forest') := by
  refine ⟨?_, ?_, fun horder => ?_⟩
  · intro member hmember
    rcases List.mem_append.1 hmember with hmem | hmem
    · exact (h.listed member hmem).mono fun path =>
        Or.imp id fun howner => Forest.mem_owners_append.2 (.inl howner)
    · exact (h'.listed member hmem).mono fun path =>
        Or.imp id fun howner => Forest.mem_owners_append.2 (.inr howner)
  · exact List.forall_mem_append.2 ⟨h.container, h'.container⟩
  · exact List.forall_mem_append.2 ⟨h.settled (horder.sublist (List.sublist_append_left _ _)),
      h'.settled (horder.sublist (List.sublist_append_right _ _))⟩

/-- A container in front of those that were found inside it. -/
theorem ListedUnder.cons {outer : Ancestry → Prop} {infos : List NodeInfo} {forest : Forest}
    {member : Member} (h : ListedUnder (· = member.entry.childPath) infos forest)
    (hcontainer : member.isContainer = true)
    (hchildren : ∀ child ∈ member.children, child.Direct member.entry.childPath)
    (houter : outer member.entry.parent) (hsettled : DocumentOrder infos → member.Settled) :
    ListedUnder outer infos (member :: forest) := by
  have howns : ∀ path, path = member.entry.childPath ∨ path ∈ forest.owners →
      path ∈ Forest.owners (member :: forest) := by
    intro path hpath
    rw [Forest.mem_owners]
    rcases hpath with rfl | hpath
    · exact ⟨member, List.mem_cons_self, hcontainer, rfl⟩
    · obtain ⟨owner, howner, hkind, hpath⟩ := Forest.mem_owners.1 hpath
      exact ⟨owner, List.mem_cons_of_mem _ howner, hkind, hpath⟩
  refine ⟨List.forall_mem_cons.2 ⟨?_, ?_⟩, List.forall_mem_cons.2 ⟨hcontainer, h.container⟩,
    fun horder => List.forall_mem_cons.2 ⟨hsettled horder, h.settled horder⟩⟩
  · exact Member.listed_of_container hcontainer hchildren (.inr (.inl houter))
  · intro other hother
    exact (h.listed other hother).mono fun path hpath => .inr (howns path hpath)

theorem isContainer_of_typeKind? {nodeKind : NodeKind} {kind : Kind}
    (h : typeKind? nodeKind = some kind) : kind.isContainer = true := by
  cases nodeKind <;> simp [typeKind?] at h <;> subst h <;> rfl

mutual

/-- **The containers of a type.** The type itself has the ancestry it is read with, and
those inside it are owned by it. -/
theorem Reading.listed_typeContainers (reading : Reading) (path : Ancestry) :
    (node : SyntaxNode) →
      ListedUnder (· = path) node.infos (reading.typeContainers path node)
  | .node info children => by
    rw [Reading.typeContainers]
    split
    · rename_i kind name hkind hname
      have hcontainer := isContainer_of_typeKind? hkind
      have hupright : DocumentOrder (SyntaxNode.node info children).infos →
          (reading.entry info kind name path).Upright := fun horder =>
        reading.upright_entry (horder.upright info List.mem_cons_self) kind name path
      dsimp only
      split
      · -- An enumeration is listed by itself.
        refine ListedUnder.cons (.nil _ _) hcontainer (List.forall_mem_nil _) rfl ?_
        exact fun horder => .leaf (hupright horder)
      · have hbody := Reading.listed_bodyContainers reading
          (reading.entry info kind name path).childPath children
        refine ListedUnder.cons (hbody.sublist (List.sublist_cons_self _ _)) hcontainer ?_ rfl ?_
        · intro child hchild
          obtain ⟨node, -, hyields⟩ := reading.mem_typeMembers hchild
          exact hyields.direct
        · intro horder
          have hinner := horder.sublist (List.sublist_cons_self _ _)
          refine .of_children (hupright horder) (reading.inLineOrder_typeMembers _ hinner) ?_
          intro child hchild
          obtain ⟨node, hnode, hyields⟩ := reading.mem_typeMembers hchild
          exact hyields.settled (hinner.upright node hnode)
    · exact .nil _ _

theorem Reading.listed_bodyContainers (reading : Reading) (path : Ancestry) :
    (nodes : List SyntaxNode) →
      ListedUnder (· = path) (SyntaxNode.infosOf nodes) (reading.bodyContainers path nodes)
  | [] => .nil _ _
  | .node info children :: rest => by
    rw [Reading.bodyContainers, SyntaxNode.infosOf]
    split
    · refine (Reading.listed_containersOf reading path children).sublist ?_
      exact (List.sublist_cons_self _ _).trans (List.sublist_append_left _ _)
    · exact (Reading.listed_bodyContainers reading path rest).sublist
        (List.sublist_append_right _ _)

theorem Reading.listed_containersOf (reading : Reading) (path : Ancestry) :
    (nodes : List SyntaxNode) →
      ListedUnder (· = path) (SyntaxNode.infosOf nodes) (reading.containersOf path nodes)
  | [] => .nil _ _
  | node :: rest => by
    rw [Reading.containersOf, SyntaxNode.infosOf]
    exact (Reading.listed_typeContainers reading path node).append
      (Reading.listed_containersOf reading path rest)

end

/-! ## The walk -/

/-- What was found among some nodes outside every type. -/
structure Findings.Sound (reading : Reading) (infos : List NodeInfo) (found : Findings) :
    Prop where
  containers : ListedUnder (fun _ => False) infos found.containers
  globals : ∀ member ∈ found.globals, member.Direct (Ancestry.root.child globalName)
  /-- The functions stand on the rows of some nodes, in the same order. -/
  lines : found.globals.map Member.startLine
    <+ infos.map fun info => info.start.row + reading.lineOffset
  settled : DocumentOrder infos → ∀ member ∈ found.globals, member.Settled

theorem Findings.sound_spans (reading : Reading) (infos : List NodeInfo)
    (spans : List NamespaceSpan) : Findings.Sound reading infos { spans := spans } :=
  ⟨.nil _ _, List.forall_mem_nil _, List.nil_sublist _, fun _ => List.forall_mem_nil _⟩

theorem Findings.Sound.sublist {reading : Reading} {infos part : List NodeInfo}
    {found : Findings} (h : found.Sound reading part) (hpart : part <+ infos) :
    found.Sound reading infos :=
  ⟨h.containers.sublist hpart, h.globals, h.lines.trans (hpart.map _),
    fun horder => h.settled (horder.sublist hpart)⟩

theorem Findings.Sound.append {reading : Reading} {infos infos' : List NodeInfo}
    {found found' : Findings} (h : found.Sound reading infos) (h' : found'.Sound reading infos') :
    (found ++ found').Sound reading (infos ++ infos') := by
  refine ⟨h.containers.append h'.containers, ?_, ?_, fun horder => ?_⟩
  · exact List.forall_mem_append.2 ⟨h.globals, h'.globals⟩
  · have happend := h.lines.append h'.lines
    rw [← List.map_append, ← List.map_append] at happend
    exact happend
  · exact List.forall_mem_append.2 ⟨h.settled (horder.sublist (List.sublist_append_left _ _)),
      h'.settled (horder.sublist (List.sublist_append_right _ _))⟩

/-- Containers with an ancestry outside every type need no owner. -/
theorem Findings.sound_containers (reading : Reading) {infos : List NodeInfo} {path : Ancestry}
    (hpath : path.types = []) {forest : Forest} (h : ListedUnder (· = path) infos forest) :
    Findings.Sound reading infos { containers := forest } := by
  refine ⟨⟨?_, h.container, h.settled⟩, List.forall_mem_nil _, List.nil_sublist _,
    fun _ => List.forall_mem_nil _⟩
  intro member hmember
  have hlisted := h.listed member hmember
  refine ⟨hlisted.children, hlisted.loose, fun hcontainer => ?_⟩
  rcases hlisted.owned hcontainer with htypes | hparent | howner
  · exact .inl htypes
  · exact .inl (by rw [hparent, hpath])
  · exact .inr (.inr howner)

theorem flatMap_sublist_map {α β : Type} {f : α → List β} {g : α → β} (h : ∀ a, f a <+ [g a])
    (l : List α) : l.flatMap f <+ l.map g := by
  induction l with
  | nil => exact .slnil
  | cons a l ih => exact (h a).append ih

theorem Findings.sound_globals (reading : Reading) (children : List SyntaxNode) :
    Findings.Sound reading (SyntaxNode.infosOf children)
      { globals := reading.globalFunctions children } := by
  have hyields : ∀ member ∈ reading.globalFunctions children, ∃ node ∈ children,
      reading.Yields (Ancestry.root.child globalName) node.info member := by
    intro member hmember
    obtain ⟨node, hnode, hmember⟩ := List.mem_flatMap.1 hmember
    exact ⟨node, (List.mem_filter.1 hnode).1, reading.yields_callable _ (.inr rfl) node hmember⟩
  refine ⟨.nil _ _, ?_, ?_, fun horder => ?_⟩
  · intro member hmember
    obtain ⟨node, -, hnode⟩ := hyields member hmember
    exact hnode.direct
  · -- Rows of the functions among the children, of all children, of all nodes.
    have hrows := flatMap_sublist_map
      (reading.map_startLine_callable .method (Ancestry.root.child globalName))
      (children.filter (·.kind == .localFunction))
    rw [← List.map_flatMap] at hrows
    refine (hrows.trans (List.filter_sublist.map _)).trans ?_
    have hinfos := (SyntaxNode.map_info_sublist children).map
      fun info => info.start.row + reading.lineOffset
    rw [List.map_map] at hinfos
    exact hinfos
  · intro member hmember
    obtain ⟨node, hnode, hmember⟩ := hyields member hmember
    refine hmember.settled (horder.upright _ ?_)
    exact (SyntaxNode.map_info_sublist _).subset (List.mem_map_of_mem hnode)

theorem types_namespacePath (path : Ancestry) (children : List SyntaxNode) :
    (namespacePath path children).types = path.types := by
  rw [namespacePath]
  split <;> rfl

theorem types_pathAfter (path : Ancestry) (node : SyntaxNode) :
    (pathAfter path node).types = path.types := by
  cases node with
  | node info children =>
    rw [pathAfter]
    split
    · exact types_namespacePath path children
    · rfl

mutual

/-- **The walk**, started outside every type, by the kinds of nodes. -/
theorem Reading.sound_walkNode (reading : Reading) (lastRow : Nat) {path : Ancestry}
    (hpath : path.types = []) :
    (node : SyntaxNode) → (reading.walkNode lastRow path node).Sound reading node.infos
  | .node info children => by
    have hinner : (namespacePath path children).types = [] := by
      rw [types_namespacePath, hpath]
    rw [Reading.walkNode]
    split
    · exact ((Findings.sound_spans reading [] _).append
        (Reading.sound_walkBody reading hinner children)).sublist (List.sublist_cons_self _ _)
    · exact ((Findings.sound_spans reading [] _).append
        (Reading.sound_walk reading info.stop.row hinner children)).sublist
          (List.sublist_cons_self _ _)
    · exact (Findings.sound_globals reading children).sublist (List.sublist_cons_self _ _)
    · exact (Reading.sound_walk reading info.stop.row hpath children).sublist
        (List.sublist_cons_self _ _)
    · exact (Reading.sound_walk reading info.stop.row hpath children).sublist
        (List.sublist_cons_self _ _)
    · exact Findings.sound_containers reading hpath
        (reading.listed_typeContainers path (.node info children))

theorem Reading.sound_walk (reading : Reading) (lastRow : Nat) {path : Ancestry}
    (hpath : path.types = []) :
    (nodes : List SyntaxNode) →
      (reading.walk lastRow path nodes).Sound reading (SyntaxNode.infosOf nodes)
  | [] => Findings.sound_spans reading _ []
  | node :: rest => by
    have hafter : (pathAfter path node).types = [] := by
      rw [types_pathAfter, hpath]
    rw [Reading.walk, SyntaxNode.infosOf]
    exact (Reading.sound_walkNode reading lastRow hpath node).append
      (Reading.sound_walk reading lastRow hafter rest)

theorem Reading.sound_walkBody (reading : Reading) {path : Ancestry} (hpath : path.types = []) :
    (nodes : List SyntaxNode) →
      (reading.walkBody path nodes).Sound reading (SyntaxNode.infosOf nodes)
  | [] => Findings.sound_spans reading _ []
  | .node info children :: rest => by
    rw [Reading.walkBody, SyntaxNode.infosOf]
    split
    · refine (Reading.sound_walk reading info.stop.row hpath children).sublist ?_
      exact (List.sublist_cons_self _ _).trans (List.sublist_append_left _ _)
    · exact (Reading.sound_walkBody reading hpath rest).sublist (List.sublist_append_right _ _)

end

/-! ## The container of functions outside every type -/

theorem foldl_min_startLine_le (members : Forest) (line : Nat) :
    members.foldl (fun line member => min line member.startLine) line ≤ line := by
  induction members generalizing line with
  | nil => exact Nat.le_refl _
  | cons first rest ih => exact Nat.le_trans (ih _) (Nat.min_le_left _ _)

theorem lastLine_le_of_lastLineOf? {first : Member} {rest : Forest} {last : Nat}
    (h : Member.lastLineOf? (first :: rest) = some last) : first.entry.lastLine ≤ last := by
  rw [Member.lastLineOf?] at h
  split at h
  · cases h
    exact Nat.le_max_left _ _
  · cases h
    exact Nat.le_refl _

theorem listed_globalContainer {globals : Forest}
    (h : ∀ member ∈ globals, member.Direct (Ancestry.root.child globalName))
    {member : Member} (hmember : member ∈ globalContainer globals) (owner : Ancestry → Prop) :
    member.Listed owner := by
  cases globals with
  | nil => cases hmember
  | cons first rest =>
    rw [globalContainer, List.mem_singleton] at hmember
    subst hmember
    exact Member.listed_of_container rfl h (.inl rfl)

theorem settled_globalContainer {globals : Forest} (hordered : globals.InLineOrder)
    (hsettled : ∀ member ∈ globals, member.Settled) {member : Member}
    (hmember : member ∈ globalContainer globals) : member.Settled := by
  cases globals with
  | nil => cases hmember
  | cons first rest =>
    rw [globalContainer, List.mem_singleton] at hmember
    subst hmember
    refine .of_children ?_ hordered hsettled
    -- It begins no later than its first function and ends no earlier.
    intro last hlast
    have hfirst := (hsettled first List.mem_cons_self).entry.le_lastLine
    have hend := lastLine_le_of_lastLineOf? hlast
    have hstart := foldl_min_startLine_le rest first.startLine
    exact Nat.le_trans (Nat.le_trans hstart hfirst) hend

/-! ## The mapping of a tree -/

/-- What the walk through a whole tree finds. -/
theorem Reading.sound_tree (reading : Reading) (tree : SyntaxNode) :
    (reading.walk tree.info.stop.row .root tree.children).Sound reading
      (SyntaxNode.infosOf tree.children) := by
  have hroot : Ancestry.root.types = [] := rfl
  exact reading.sound_walk tree.info.stop.row hroot tree.children

/-- The members are listed as a mapper lists them, for any tree. -/
theorem Reading.listed_mapping (reading : Reading) (tree : SyntaxNode) :
    (reading.mapping tree).members.Listed := by
  have hfound := reading.sound_tree tree
  rw [Reading.mapping]
  dsimp only
  refine Forest.Listed.perm ?_ (Forest.sortByLine_perm _)
  intro member hmember
  rcases List.mem_append.1 hmember with hmember | hmember
  · refine (hfound.containers.listed member hmember).mono ?_
    rintro path (hfalse | howner)
    · cases hfalse
    · exact Forest.mem_owners_append.2 (.inl howner)
  · exact listed_globalContainer hfound.globals hmember _

/-- **What a tree in document order declares is well-formed.** -/
theorem Reading.wellFormed_mapping (reading : Reading) {tree : SyntaxNode}
    (h : tree.InDocumentOrder) : (reading.mapping tree).members.WellFormed := by
  have hfound := reading.sound_tree tree
  have hinner := DocumentOrder.sublist h tree.infosOf_children_sublist
  -- The functions are not sorted in their container, so they have to be found in order.
  have hordered : (reading.walk tree.info.stop.row .root tree.children).globals.InLineOrder := by
    have hrows : ((SyntaxNode.infosOf tree.children).map
        fun info => info.start.row + reading.lineOffset).Pairwise (· ≤ ·) :=
      List.pairwise_map.2 (hinner.ordered.imp fun hle => Nat.add_le_add_right hle _)
    exact List.pairwise_map.1 (hrows.sublist hfound.lines)
  refine (reading.listed_mapping tree).wellFormed (Forest.inLineOrder_sortByLine _) ?_
  intro member hmember
  rcases List.mem_append.1 ((Forest.sortByLine_perm _).mem_iff.1 hmember) with hmember | hmember
  · exact hfound.containers.settled hinner member hmember
  · exact settled_globalContainer hordered (hfound.settled hinner) hmember

end SourceOutline.CSharp
