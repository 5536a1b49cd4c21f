/-
An outline is a tree written out row by row.

A row says how deep it stands, and the depth is the number of types in its ancestry; the
order of the rows comes from the nested forest and from what is hidden or sorted. The two
agree. Whatever the options are, the rows are the preorder of a tree in which each child
has the child path of its parent as an ancestry (`Displays`). Hiding a container hides
all that stands in it, sorting moves whole blocks, and a container that is kept as a bare
heading keeps its place.

From there on only the tree matters. The parent of a row is the nearest row before it
that is less deep (`Hierarchical`), since everything between the two stands in the same
parent. And two trees with the same preorder and the same depths are the same
(`Forest.eq_of_leveled`): the children of a row end where the depth falls back.
-/
import SourceOutline.Proofs.Mappings
import SourceOutline.Proofs.Nesting

set_option autoImplicit false

namespace SourceOutline

open scoped List

/-! ## Trees of rows -/

/-- A tree of rows. What stands below a row has its child path as an ancestry, and only
containers have something below them. -/
inductive Member.Seated : Member → Prop where
  | node {entry : Entry} {children : Forest}
      (howns : children ≠ [] → entry.kind.isContainer = true)
      (hparent : ∀ child ∈ children, child.entry.parent = entry.childPath)
      (hbelow : ∀ child ∈ children, child.Seated) : Member.Seated (.node entry children)

/-- Rows that are the preorder of a tree, with something known of the ancestry at its
top. -/
def Displays (top : Ancestry → Prop) (rows : List Entry) : Prop :=
  ∃ shown : Forest, shown.entries = rows
    ∧ ∀ member ∈ shown, top member.entry.parent ∧ member.Seated

section Displays

variable {top : Ancestry → Prop}

theorem Displays.nil : Displays top [] :=
  ⟨[], rfl, List.forall_mem_nil _⟩

theorem Displays.append {rows rows' : List Entry} (h : Displays top rows)
    (h' : Displays top rows') : Displays top (rows ++ rows') := by
  obtain ⟨shown, hrows, hshown⟩ := h
  obtain ⟨shown', hrows', hshown'⟩ := h'
  refine ⟨shown ++ shown', ?_, List.forall_mem_append.2 ⟨hshown, hshown'⟩⟩
  rw [Forest.entries_append, hrows, hrows']

/-- A leaf. -/
theorem Displays.singleton {entry : Entry} (h : top entry.parent) : Displays top [entry] := by
  refine ⟨[.leaf entry], rfl, ?_⟩
  intro member hmember
  rw [List.mem_singleton.1 hmember]
  exact ⟨h, .node (absurd rfl) (List.forall_mem_nil _) (List.forall_mem_nil _)⟩

/-- A container in front of what it shows. -/
theorem Displays.cons {entry : Entry} {rows : List Entry} (h : top entry.parent)
    (hcontainer : entry.kind.isContainer = true) (hrows : Displays (· = entry.childPath) rows) :
    Displays top (entry :: rows) := by
  obtain ⟨shown, rfl, hshown⟩ := hrows
  refine ⟨[.node entry shown], by simp [Forest.entries, Member.entries], ?_⟩
  intro member hmember
  rw [List.mem_singleton.1 hmember]
  exact ⟨h, .node (fun _ => hcontainer) (fun child hchild => (hshown child hchild).1)
    fun child hchild => (hshown child hchild).2⟩

theorem Displays.flatMap {blocks : List Block} (h : ∀ block ∈ blocks, Displays top block.rows) :
    Displays top (blocks.flatMap Block.rows) := by
  induction blocks with
  | nil => exact .nil
  | cons block rest ih =>
    obtain ⟨hblock, hrest⟩ := List.forall_mem_cons.1 h
    exact hblock.append (ih hrest)

/-- Both orders of a level put blocks together. -/
theorem Displays.arrange {blocks : List Block} (h : ∀ block ∈ blocks, Displays top block.rows)
    (options : Options) : Displays top (arrange options blocks) := by
  rw [SourceOutline.arrange]
  split
  · exact .flatMap fun block hblock => h block ((sortLevel_subperm blocks).subset hblock)
  · exact .flatMap h

end Displays

/-! ## Emission -/

mutual

/-- **What a container shows**, whatever the options are. -/
theorem Member.displays_rows (options : Options) (filter : Option String)
    {top : Ancestry → Prop} :
    (member : Member) → member.InPlace → member.isContainer = true → top member.entry.parent →
      Displays top (member.rows options filter)
  | .node entry children, h, hcontainer, htop => by
    cases h with
    | plain hplain =>
      rw [Member.isContainer, Member.entry, hplain] at hcontainer
      cases hcontainer
    | container hparent hbelow =>
      rw [Member.rows]
      split
      · -- The container is kept, as a bare heading if all its blocks are empty.
        refine .cons htop hcontainer (.arrange ?_ options)
        exact Forest.displays_blocks options filter _ children hbelow hparent
      · exact .nil

theorem Forest.displays_blocks (options : Options) (filter : Option String) (loose : Bool)
    {top : Ancestry → Prop} :
    (forest : Forest) → (∀ member ∈ forest, member.InPlace) →
      (∀ member ∈ forest, top member.entry.parent) →
      ∀ block ∈ forest.blocks options filter loose, Displays top block.rows
  | [], _, _ => List.forall_mem_nil _
  | member :: rest, hplace, htop => by
    obtain ⟨hmember, hrest⟩ := List.forall_mem_cons.1 hplace
    obtain ⟨hentry, hentries⟩ := List.forall_mem_cons.1 htop
    rw [Forest.blocks]
    refine List.forall_mem_cons.2
      ⟨?_, Forest.displays_blocks options filter loose rest hrest hentries⟩
    dsimp only
    split
    · rename_i hcontainer
      exact Member.displays_rows options filter member hmember hcontainer hentry
    · -- What is no container is shown without anything below it, if it is shown.
      rw [leafRows]
      split
      · exact .singleton hentry
      · exact .nil

end

/-- **The rows of an outline.** They are entries of the forest, and the preorder of a tree
whose top stands outside every type. -/
theorem Forest.Housed.emit {forest : Forest} (h : forest.Housed) (options : Options)
    (encodesContainment : Bool) :
    ∃ rows, rows <+~ forest.entries
      ∧ forest.nest.emit options encodesContainment = rows.map Entry.item
      ∧ Displays (fun path => path.types = []) rows := by
  have hnest := h.nest
  refine ⟨_, ?_, rfl, ?_⟩
  · exact ((arrange_subperm options _).trans (Forest.blocks_subperm options _ _ _)).trans
      forest.nest_entries_perm.subperm
  · exact .arrange (Forest.displays_blocks options _ _ _ (fun member hmember =>
      (hnest member hmember).2) fun member hmember => (hnest member hmember).1) options

/-! ## The nearest row that is less deep -/

theorem Entry.depth_childPath (entry : Entry) :
    entry.childPath.depth = entry.parent.depth + 1 := by
  simp [Entry.childPath, Ancestry.child, Ancestry.depth]

/-- A row in a list with its parent before it: everything between the two is at least as
deep as the row. -/
def OwnedIn (before : List Entry) (row : Entry) : Prop :=
  ∃ front owner between, before = front ++ owner :: between
    ∧ owner.kind.isContainer = true ∧ row.parent = owner.childPath
    ∧ ∀ other ∈ between, row.parent.depth ≤ other.parent.depth

theorem OwnedIn.append_left {before : List Entry} {row : Entry} (h : OwnedIn before row)
    (earlier : List Entry) : OwnedIn (earlier ++ before) row := by
  obtain ⟨front, owner, between, rfl, hrest⟩ := h
  exact ⟨earlier ++ front, owner, between, (List.append_assoc _ _ _).symm, hrest⟩

/-- Nothing in a tree is less deep than its top. -/
theorem Member.Seated.depth_le {member : Member} (h : member.Seated) :
    ∀ entry ∈ member.entries, member.entry.parent.depth ≤ entry.parent.depth := by
  induction h with
  | @node entry children howns hparent hbelow ih =>
    rw [Member.entries, Forest.entries_eq_flatMap]
    refine List.forall_mem_cons.2 ⟨Nat.le_refl _, fun other hother => ?_⟩
    obtain ⟨child, hchild, hother⟩ := List.mem_flatMap.1 hother
    have hle := ih child hchild other hother
    rw [hparent child hchild, entry.depth_childPath] at hle
    exact Nat.le_of_succ_le hle

/-- In trees side by side a row is at the top of one of them, or it is owned, if that is so
in each of them. -/
theorem Forest.top_or_ownedIn {forest : Forest}
    (h : ∀ member ∈ forest, ∀ before row after, member.entries = before ++ row :: after →
      row = member.entry ∨ OwnedIn before row)
    {before after : List Entry} {row : Entry} (hsplit : forest.entries = before ++ row :: after) :
    (∃ member ∈ forest, row = member.entry) ∨ OwnedIn before row := by
  induction forest generalizing before with
  | nil => simp [Forest.entries] at hsplit
  | cons member rest ih =>
    obtain ⟨hmember, hrest⟩ := List.forall_mem_cons.1 h
    rw [Forest.entries] at hsplit
    -- A row of the later trees has all of the first tree before it.
    have hothers : ∀ later, Forest.entries rest = later ++ row :: after →
        (∃ other ∈ member :: rest, row = other.entry) ∨ OwnedIn (member.entries ++ later) row := by
      intro later hlater
      rcases ih hrest hlater with ⟨other, hother, hrow⟩ | howned
      · exact .inl ⟨other, List.mem_cons_of_mem _ hother, hrow⟩
      · exact .inr (howned.append_left _)
    rcases List.append_eq_append_iff.1 hsplit with ⟨later, rfl, hlater⟩ | ⟨part, hpart, hafter⟩
    · exact hothers later hlater
    · -- The row begins what is left of the first tree, unless nothing is left of it.
      cases part with
      | nil =>
        rw [List.append_nil] at hpart
        have hfirst := hothers [] hafter.symm
        rwa [List.append_nil, hpart] at hfirst
      | cons first part =>
        cases hafter
        refine (hmember before row part hpart).imp (fun hrow => ?_) id
        exact ⟨member, List.mem_cons_self, hrow⟩

/-- **The parent of a row.** -/
theorem Member.Seated.top_or_ownedIn {member : Member} (h : member.Seated) :
    ∀ before row after, member.entries = before ++ row :: after →
      row = member.entry ∨ OwnedIn before row := by
  induction h with
  | @node entry children howns hparent hbelow ih =>
    intro before row after hsplit
    rw [Member.entries] at hsplit
    rcases List.cons_eq_append_iff.1 hsplit with ⟨-, hrow⟩ | ⟨before', rfl, hsplit'⟩
    · cases hrow
      exact .inl rfl
    · refine .inr ?_
      rcases Forest.top_or_ownedIn ih hsplit' with ⟨child, hchild, rfl⟩ | howned
      · -- The row is a child. Between it and the top stand its earlier siblings with what is
        -- below them, none of which is less deep than a child.
        refine ⟨[], entry, before', rfl, howns (List.ne_nil_of_mem hchild),
          hparent child hchild, ?_⟩
        intro other hother
        have hmem : other ∈ children.entries := by
          rw [hsplit']
          exact List.mem_append_left _ hother
        rw [Forest.entries_eq_flatMap] at hmem
        obtain ⟨sibling, hsibling, hmem⟩ := List.mem_flatMap.1 hmem
        have hle := (hbelow sibling hsibling).depth_le other hmem
        rw [hparent sibling hsibling, ← hparent child hchild] at hle
        exact hle
      · exact howned.append_left [entry]

/-- Rows in which every one that is not at the top has its parent before it: the nearest
earlier row that is less deep is a container, one level up, and its path extended by its
name is what the row shows as its own. -/
def Hierarchical (rows : List Entry) : Prop :=
  ∀ before row after, rows = before ++ row :: after →
    row.item.depth = 0
    ∨ ∃ front owner between, before = front ++ owner :: between
      ∧ (∀ other ∈ between, row.item.depth ≤ other.item.depth)
      ∧ owner.item.depth + 1 = row.item.depth
      ∧ owner.item.kind.isContainer = true
      ∧ row.item.parentPath = (owner.parent.child owner.name).render

theorem Displays.hierarchical {rows : List Entry}
    (h : Displays (fun path => path.types = []) rows) : Hierarchical rows := by
  obtain ⟨shown, rfl, hshown⟩ := h
  intro before row after hsplit
  rcases Forest.top_or_ownedIn (fun member hmember => (hshown member hmember).2.top_or_ownedIn)
    hsplit with ⟨member, hmember, rfl⟩ | ⟨front, owner, between, rfl, hkind, hparent, hbetween⟩
  · exact .inl (List.length_eq_zero_iff.2 (hshown member hmember).1)
  · refine .inr ⟨front, owner, between, rfl, hbetween, ?_, hkind, ?_⟩
    · have hdepth := owner.depth_childPath
      rw [← hparent] at hdepth
      exact hdepth.symm
    · exact congrArg Ancestry.render hparent

/-! ## The tree of a list of rows -/

mutual

/-- A tree whose rows are as deep as they stand in it, from some depth on. -/
def Member.Leveled (depth : Nat) : Member → Prop
  | .node entry children => entry.parent.depth = depth ∧ Forest.Leveled (depth + 1) children

/-- Trees side by side whose rows are as deep as they stand in them. -/
def Forest.Leveled (depth : Nat) : Forest → Prop
  | [] => True
  | member :: rest => member.Leveled depth ∧ Forest.Leveled depth rest

end

theorem Forest.leveled_iff {forest : Forest} {depth : Nat} :
    forest.Leveled depth ↔ ∀ member ∈ forest, member.Leveled depth := by
  induction forest with
  | nil => simp [Forest.Leveled]
  | cons member rest ih => rw [Forest.Leveled, ih, List.forall_mem_cons]

theorem Member.Seated.leveled {member : Member} (h : member.Seated) :
    member.Leveled member.entry.parent.depth := by
  induction h with
  | @node entry children howns hparent hbelow ih =>
    refine ⟨rfl, Forest.leveled_iff.2 fun child hchild => ?_⟩
    have hchild' := ih child hchild
    rw [hparent child hchild, entry.depth_childPath] at hchild'
    exact hchild'

/-- Rows that do not go on at a depth. -/
def FallsBelow (depth : Nat) (rows : List Entry) : Prop :=
  ∀ entry ∈ rows.head?, entry.parent.depth < depth

/-- Siblings end the children of the one before them. -/
theorem FallsBelow.append {depth : Nat} {rows : List Entry} (h : FallsBelow depth rows)
    {forest : Forest} (hforest : forest.Leveled depth) :
    FallsBelow (depth + 1) (forest.entries ++ rows) := by
  cases forest with
  | nil => exact fun entry hentry => Nat.lt_succ_of_lt (h entry hentry)
  | cons member rest =>
    cases member with
    | node first children =>
      intro entry hentry
      cases hentry
      rw [hforest.1.1]
      exact Nat.lt_succ_self depth

theorem FallsBelow.ne_entries_append {depth : Nat} {rows : List Entry} (h : FallsBelow depth rows)
    {member : Member} {rest : Forest} (hlevel : Forest.Leveled depth (member :: rest))
    (after : List Entry) : rows ≠ Forest.entries (member :: rest) ++ after := by
  cases member with
  | node entry children =>
    rintro rfl
    have hfalls := h entry rfl
    rw [hlevel.1.1] at hfalls
    exact Nat.lt_irrefl _ hfalls

/-- The trees can be told apart from what follows them, and they can be read off the
rows. -/
theorem Forest.eq_of_leveled_append {depth : Nat} {second : Forest} {rest rest' : List Entry} :
    (first : Forest) → first.Leveled depth → second.Leveled depth → FallsBelow depth rest →
      FallsBelow depth rest' → first.entries ++ rest = second.entries ++ rest' →
      first = second ∧ rest = rest'
  | [], _, hsecond, hrest, _, heq => by
    cases second with
    | nil => exact ⟨rfl, heq⟩
    | cons member tail => exact absurd heq (hrest.ne_entries_append hsecond rest')
  | .node entry children :: tail, hfirst, hsecond, hrest, hrest', heq => by
    cases second with
    | nil => exact absurd heq.symm (hrest'.ne_entries_append hfirst rest)
    | cons member tail' =>
      cases member with
      | node entry' children' =>
        simp only [Forest.entries, Member.entries, List.cons_append, List.append_assoc,
          List.cons.injEq] at heq
        obtain ⟨rfl, heq⟩ := heq
        -- The children come first; the siblings that follow are less deep and end them.
        obtain ⟨rfl, htail⟩ := Forest.eq_of_leveled_append children hfirst.1.2 hsecond.1.2
          (hrest.append hfirst.2) (hrest'.append hsecond.2) heq
        obtain ⟨rfl, hrows⟩ :=
          Forest.eq_of_leveled_append tail hfirst.2 hsecond.2 hrest hrest' htail
        exact ⟨rfl, hrows⟩

theorem Forest.leveled_of_seated {shown : Forest}
    (h : ∀ member ∈ shown, member.entry.parent.types = [] ∧ member.Seated) :
    shown.Leveled 0 := by
  refine Forest.leveled_iff.2 fun member hmember => ?_
  have htop : member.entry.parent.depth = 0 := List.length_eq_zero_iff.2 (h member hmember).1
  have hmember' := (h member hmember).2.leveled
  rwa [htop] at hmember'

/-- **The rows and their depths determine the tree.** -/
theorem Displays.existsUnique_leveled {rows : List Entry}
    (h : Displays (fun path => path.types = []) rows) :
    ∃! shown : Forest, shown.Leveled 0 ∧ shown.entries = rows := by
  obtain ⟨shown, rfl, hshown⟩ := h
  have hleveled : shown.Leveled 0 := Forest.leveled_of_seated hshown
  refine ⟨shown, ⟨hleveled, rfl⟩, ?_⟩
  rintro other ⟨hother, heq⟩
  have hnone : FallsBelow 0 [] := fun entry hentry => by cases hentry
  refine (Forest.eq_of_leveled_append other hother hleveled hnone hnone ?_).1
  rw [heq]

/-! ## Outlines -/

/-- **The rows of an outline form a tree**, for every source that can be read, in every
language and with any way to read C#, and for all options. -/
theorem outline_rows_form_tree {σ : Type} (parse : String → CSharp.SyntaxNode)
    (generator : Generator σ) (hfactory : generator.factory = factoryWith parse)
    (source : Source) (language : Language)
    (hlanguage : generator.registry.resolve source.extension = some language)
    (options : Options) (world : World σ) (text : String)
    (hread : source.read world.disk = .ok text) :
    ∃ run : Completion generator source options world,
      generator.generate source options world = (.ready run.outline, run.worldAfter)
      ∧ ∃ rows, rows <+~ (run.forest.joinColors world.store.bookmarks source.fileKey?).entries
        ∧ run.outline.items = rows.map Entry.item
        ∧ Hierarchical rows
        ∧ ∃! shown : Forest, shown.Leveled 0 ∧ shown.entries = rows := by
  refine ⟨.first hfactory hlanguage hread options,
    Generator.generate_first hfactory hlanguage hread options, ?_⟩
  have hhoused : (Completion.first hfactory hlanguage hread options).forest.Housed :=
    Mapping.housed_identified (language.listed_mapping parse text _) _ _ _
  obtain ⟨rows, hrows, hitems, hdisplays⟩ :=
    (hhoused.joinColors world.store.bookmarks source.fileKey?).emit options _
  exact ⟨rows, hrows, hitems, hdisplays.hierarchical, hdisplays.existsUnique_leveled⟩

/-- A class with a class and then a function in it. -/
theorem outline_rows_form_tree_of_nested_class :
    let text := "class A:\n class B: pass\n def f(): pass"
    let source : Source := .text text "py" none
    let generator : Generator Unit := {
      registry := Registry.empty.register "py" .python
      factory := standardFactory
      maxAttempts := 1
      tokens := fun _ => "token"
      stamp := { timestamp := "" } }
    let options : Options := { sortMembers := false }
    let world : World Unit := ⟨{ home := "/" }, .inMemory, ()⟩
    generator.factory = factoryWith CSharp.parse
    ∧ generator.registry.resolve source.extension = some .python
    ∧ source.read world.disk = .ok text
    ∧ ∃ run : Completion generator source options world,
      generator.generate source options world = (.ready run.outline, run.worldAfter)
      ∧ run.outline.items.map (fun item => (item.title, item.depth))
        = [("A", 0), ("B", 1), ("f()", 1)]
      ∧ ∃ rows, rows <+~ (run.forest.joinColors world.store.bookmarks source.fileKey?).entries
        ∧ run.outline.items = rows.map Entry.item
        ∧ Hierarchical rows
        ∧ ∃! shown : Forest, shown.Leveled 0 ∧ shown.entries = rows := by
  intro text source generator options world
  have hfactory : generator.factory = factoryWith CSharp.parse := standardFactory_eq
  have hlanguage : generator.registry.resolve source.extension = some .python := resolve_py
  have hread : source.read world.disk = .ok text := rfl
  obtain ⟨run, hrun, hrows⟩ := outline_rows_form_tree CSharp.parse generator hfactory source
    .python hlanguage options world text hread
  refine ⟨hfactory, hlanguage, hread, run, hrun, ?_, hrows⟩
  rw [(Generator.eq_first_of_generate hfactory hlanguage hread hrun).1]
  cbv

end SourceOutline
