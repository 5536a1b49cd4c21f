/-
Outlines in title order.

Sorting is a second way through a level, with filters of its own: the leaves are taken kind by
kind, and containers after them. The two ways agree on what they show. The groups of a level
take everything but the markers (`sortLevel_perm`), and what a member brings along is the same
in both orders, up to order again (`Forest.blocks_sorted_perm`).

What title order looks like is said level by level in `TitleListing`, without the sort: a group
is any list of the members that are shown, as long as their titles are in order. Ties are
between equal titles only (`titleLe_antisymm`), so a group in which titles differ can be listed
in one way. From the innermost level outwards the order in which siblings were declared is then
lost (`Forest.Reordered.blocks_perm`): what stands below a member does not depend on it, and the
members themselves are sorted.
-/
import SourceOutline.Proofs.LineOrder

set_option autoImplicit false

namespace SourceOutline

open scoped List

/-! ## The members shown in both orders -/

/-- The options with one of the two orders of a level. -/
def Options.sorting (options : Options) (sorted : Bool) : Options :=
  { options with sortMembers := sorted }

section SameMembers

variable (options : Options)

mutual

theorem Member.holdsMatch_sorting (sorted : Bool) (filter : String) :
    (member : Member) →
      member.holdsMatch (options.sorting sorted) filter = member.holdsMatch options filter
  | .node _ children => by
    unfold Member.holdsMatch
    exact Forest.holdsMatch_sorting sorted filter children

theorem Forest.holdsMatch_sorting (sorted : Bool) (filter : String) :
    (forest : Forest) →
      forest.holdsMatch (options.sorting sorted) filter = forest.holdsMatch options filter
  | [] => rfl
  | member :: rest => by
    unfold Forest.holdsMatch
    rw [Member.holdsMatch_sorting sorted filter member,
      Forest.holdsMatch_sorting sorted filter rest]
    rfl

end

/-- Whether a container is shown, and its own members with it, is not a matter of the order. -/
theorem ownMembers?_sorting (sorted : Bool) (filter : Option String) (member : Member) :
    ownMembers? (options.sorting sorted) filter member = ownMembers? options filter member := by
  unfold ownMembers?
  simp only [Member.holdsMatch_sorting]
  rfl

theorem leafRows_sorting (sorted loose : Bool) (entry : Entry) :
    leafRows (options.sorting sorted) loose entry = leafRows options loose entry :=
  rfl

/-- A level in title order has the rows of its blocks, except those of markers. -/
theorem arrange_sorted_perm {options : Options} (h : options.sortMembers = true)
    (blocks : List Block) :
    arrange options blocks
      ~ (blocks.filter fun block => block.entry.kind != .region).flatMap Block.rows := by
  rw [arrange, if_pos h]
  exact (sortLevel_perm blocks).flatMap_right _

theorem Member.kind_ne_region {member : Member} (h : member.isContainer = true) :
    (member.entry.kind != .region) = true := by
  rw [bne_iff_ne]
  intro hkind
  exact Member.not_isMark_of_isContainer h (beq_iff_eq.2 hkind)

/-- A leaf brings its row along in either order, and a marker only in that of lines. -/
theorem filter_leafRows (loose : Bool) (entry : Entry) :
    (leafRows options loose entry).filter (fun row => row.kind != .region)
      = if entry.kind != .region then leafRows options loose entry else [] := by
  unfold leafRows
  by_cases hregion : (entry.kind != .region) = true
  · rw [if_pos hregion]
    split
    · rw [List.filter_cons, if_pos hregion, List.filter_nil]
    · rfl
  · rw [if_neg hregion]
    split
    · rw [List.filter_cons, if_neg hregion, List.filter_nil]
    · rfl

mutual

theorem Member.rows_sorted_perm (filter : Option String) :
    (member : Member) → member.isContainer = true →
      member.rows (options.sorting true) filter
        ~ (member.rows (options.sorting false) filter).filter fun row => row.kind != .region
  | .node entry children, hcontainer => by
    unfold Member.rows
    rw [ownMembers?_sorting, ownMembers?_sorting]
    cases ownMembers? options filter (.node entry children) with
    | none => exact .refl []
    | some own =>
      have hregion : (entry.kind != .region) = true := Member.kind_ne_region hcontainer
      have hplain : (options.sorting false).sortMembers = false := rfl
      dsimp only
      rw [List.filter_cons, if_pos hregion, arrange_unsorted hplain]
      apply List.Perm.cons
      exact (arrange_sorted_perm rfl _).trans (Forest.blocks_sorted_perm filter own children)

/-- **Both orders of a level show the same.** The markers are all that title order leaves out. -/
theorem Forest.blocks_sorted_perm (filter : Option String) (loose : Bool) :
    (forest : Forest) →
      ((forest.blocks (options.sorting true) filter loose).filter
          fun block => block.entry.kind != .region).flatMap Block.rows
        ~ ((forest.blocks (options.sorting false) filter loose).flatMap Block.rows).filter
            fun row => row.kind != .region
  | [] => .refl []
  | member :: rest => by
    have hrest := Forest.blocks_sorted_perm filter loose rest
    unfold Forest.blocks
    rw [List.flatMap_cons, List.filter_append, List.filter_cons]
    dsimp only
    by_cases hcontainer : member.isContainer = true
    · -- A container is no marker, and below it the two orders have been compared already.
      rw [if_pos (Member.kind_ne_region hcontainer), List.flatMap_cons, if_pos hcontainer,
        if_pos hcontainer]
      exact (Member.rows_sorted_perm filter member hcontainer).append hrest
    · rw [if_neg hcontainer, if_neg hcontainer, leafRows_sorting, leafRows_sorting,
        filter_leafRows]
      by_cases hregion : (member.entry.kind != .region) = true
      · rw [if_pos hregion, if_pos hregion, List.flatMap_cons]
        exact hrest.append_left _
      · rw [if_neg hregion, if_neg hregion, List.nil_append]
        exact hrest

end

end SameMembers

/-- **Both orders show the same members.** In title order an outline has the items that it has in
declaration order, except those of markers, and neither shows a member twice: the rows are
entries of the forest, none more often than it is there. -/
theorem orders_show_same_members (forest : Forest) (options : Options)
    (encodesContainment : Bool) :
    (forest.emit (options.sorting true) encodesContainment
      ~ (forest.emit (options.sorting false) encodesContainment).filter
          fun item => item.kind != .region)
    ∧ ∀ sorted, ∃ rows, rows <+~ forest.entries
      ∧ forest.emit (options.sorting sorted) encodesContainment = rows.map Entry.item := by
  refine ⟨?_, fun sorted => forest.emit_eq_map _ _⟩
  have hkind : (fun item : Item => item.kind != .region) ∘ Entry.item
      = fun row => row.kind != .region := rfl
  have hplain : (options.sorting false).sortMembers = false := rfl
  unfold Forest.emit
  dsimp only
  rw [List.filter_map, hkind, arrange_unsorted hplain]
  apply List.Perm.map
  exact (arrange_sorted_perm rfl _).trans (forest.blocks_sorted_perm options _ _)

/-! ## Titles -/

/-- Entries in the order of their titles: up to case, and exactly where only case differs. -/
def InTitleOrder (entries : List Entry) : Prop :=
  entries.Pairwise fun first second =>
    Text.lower first.title < Text.lower second.title
      ∨ Text.lower first.title = Text.lower second.title ∧ first.title ≤ second.title

theorem titleLe_iff {a b : String} :
    titleLe a b = true ↔ Text.lower a < Text.lower b ∨ Text.lower a = Text.lower b ∧ a ≤ b := by
  simp [titleLe]

theorem titleLe_trans {a b c : String} (hab : titleLe a b = true) (hbc : titleLe b c = true) :
    titleLe a c = true := by
  rw [titleLe_iff] at hab hbc ⊢
  rcases hab with hab | ⟨hab, hle⟩
  · rcases hbc with hbc | ⟨hbc, -⟩
    · exact .inl (String.lt_trans hab hbc)
    · exact .inl (hbc ▸ hab)
  · rcases hbc with hbc | ⟨hbc, hle'⟩
    · exact .inl (hab ▸ hbc)
    · exact .inr ⟨hab.trans hbc, String.le_trans hle hle'⟩

theorem titleLe_total (a b : String) : (titleLe a b || titleLe b a) = true := by
  rw [Bool.or_eq_true, titleLe_iff, titleLe_iff]
  by_cases hlt : Text.lower a < Text.lower b
  · exact .inl (.inl hlt)
  · by_cases hgt : Text.lower b < Text.lower a
    · exact .inr (.inl hgt)
    · -- Up to case the titles are the same, so their exact texts decide.
      have heq : Text.lower a = Text.lower b := String.le_antisymm hgt hlt
      rcases String.le_total a b with hle | hle
      · exact .inl (.inr ⟨heq, hle⟩)
      · exact .inr (.inr ⟨heq.symm, hle⟩)

/-- Only equal titles tie. -/
theorem titleLe_antisymm {a b : String} (hab : titleLe a b = true) (hba : titleLe b a = true) :
    a = b := by
  rw [titleLe_iff] at hab hba
  rcases hab with hab | ⟨hab, hle⟩
  · rcases hba with hba | ⟨hba, -⟩
    · exact absurd hba (String.lt_asymm hab)
    · rw [hba] at hab
      exact absurd hab (String.lt_irrefl _)
  · rcases hba with hba | ⟨-, hle'⟩
    · rw [hab] at hba
      exact absurd hba (String.lt_irrefl _)
    · exact String.le_antisymm hle hle'

/-- Sorting puts titles in order, whatever they are the titles of. -/
theorem pairwise_titleLe {α : Type} (title : α → String) (l : List α) :
    (l.mergeSort fun a b => titleLe (title a) (title b)).Pairwise
      fun a b => titleLe (title a) (title b) = true := by
  have htrans : ∀ a b c : α, titleLe (title a) (title b) = true →
      titleLe (title b) (title c) = true → titleLe (title a) (title c) = true :=
    fun _ _ _ => titleLe_trans
  have htotal : ∀ a b : α, (titleLe (title a) (title b) || titleLe (title b) (title a)) = true :=
    fun _ _ => titleLe_total _ _
  exact List.pairwise_mergeSort htrans htotal l

/-- Members in the order of their titles. -/
def Forest.sortByTitle (forest : Forest) : Forest :=
  forest.mergeSort fun a b => titleLe a.entry.title b.entry.title

theorem Forest.sortByTitle_perm (forest : Forest) : forest.sortByTitle ~ forest :=
  List.mergeSort_perm _ _

theorem Forest.inTitleOrder_sortByTitle (forest : Forest) :
    InTitleOrder (forest.sortByTitle.map Member.entry) := by
  unfold InTitleOrder
  rw [List.pairwise_map]
  apply (pairwise_titleLe (fun member : Member => member.entry.title) forest).imp
  intro a b hle
  exact titleLe_iff.1 hle

/-! ## What a level lists -/

section Levels

variable (options : Options) (filter : Option String)

/-- A group of leaves as a level lists them: those of one kind that are shown, by title. -/
structure LeafGroup (loose : Bool) (kind : Kind) (forest : Forest) (rows : List Entry) :
    Prop where
  shown : rows ~ (forest.map Member.entry).filter fun entry =>
    entry.kind == kind && loose && options.showsLeaf entry
  ordered : InTitleOrder rows

/-- The containers of a level that are shown, by title. -/
structure ContainerGroup (forest containers : Forest) : Prop where
  shown : containers ~ forest.filter fun member =>
    member.isContainer && (ownMembers? options filter member).isSome
  ordered : InTitleOrder (containers.map Member.entry)

/-- A level in title order, with all that stands below it: constructors, methods, properties,
fields, and each container with its own level right behind it. -/
inductive TitleListing : Bool → Forest → List Entry → Prop where
  | level {loose : Bool} {forest containers : Forest}
      {constructors methods properties fields : List Entry} {below : Member → List Entry}
      (hconstructors : LeafGroup options loose .constructor forest constructors)
      (hmethods : LeafGroup options loose .method forest methods)
      (hproperties : LeafGroup options loose .property forest properties)
      (hfields : LeafGroup options loose .field forest fields)
      (hcontainers : ContainerGroup options filter forest containers)
      (hbelow : ∀ member ∈ containers, ∀ own, ownMembers? options filter member = some own →
        TitleListing own member.children (below member)) :
      TitleListing loose forest (constructors ++ methods ++ properties ++ fields
        ++ containers.flatMap fun member => member.entry :: below member)

/-- What a member brings along to its level. -/
def Member.block (loose : Bool) (member : Member) : Block where
  entry := member.entry
  rows := if member.isContainer then member.rows options filter
    else leafRows options loose member.entry

theorem Forest.blocks_eq_map (loose : Bool) (forest : Forest) :
    forest.blocks options filter loose = forest.map (Member.block options filter loose) := by
  induction forest with
  | nil => rfl
  | cons member rest ih =>
    rw [Forest.blocks, ih]
    rfl

theorem sortBlocks_map (loose : Bool) (forest : Forest) :
    sortBlocks (forest.map (Member.block options filter loose))
      = forest.sortByTitle.map (Member.block options filter loose) := by
  unfold sortBlocks Forest.sortByTitle
  rw [List.map_mergeSort]
  intro a _ b _
  rfl

theorem Forest.mem_sortByTitle {forest : Forest} {member : Member} :
    member ∈ forest.sortByTitle ↔ member ∈ forest :=
  forest.sortByTitle_perm.mem_iff

/-- Members that bring their own row along, or none. -/
theorem flatMap_rows_eq_filter {forest : Forest} {loose : Bool} {shown : Entry → Bool}
    (h : ∀ member ∈ forest, (member.block options filter loose).rows
      = if shown member.entry then [member.entry] else []) :
    (forest.map (Member.block options filter loose)).flatMap Block.rows
      = (forest.map Member.entry).filter shown := by
  induction forest with
  | nil => rfl
  | cons member rest ih =>
    obtain ⟨hmember, hrest⟩ := List.forall_mem_cons.1 h
    rw [List.map_cons, List.flatMap_cons, hmember, ih hrest, List.map_cons, List.filter_cons]
    split
    · rfl
    · rfl

/-- The rows of the leaves of one kind. -/
theorem leafGroup_sortedOfKind (loose : Bool) {kind : Kind} (hleaf : kind.isContainer = false)
    (hkind : kind ≠ .region) (forest : Forest) :
    LeafGroup options loose kind forest
      ((sortedOfKind kind (forest.blocks options filter loose)).flatMap Block.rows) := by
  generalize hgroup : forest.filter (fun member => member.entry.kind == kind) = group
  have hblocks : sortedOfKind kind (forest.blocks options filter loose)
      = (Forest.sortByTitle group).map (Member.block options filter loose) := by
    rw [← sortBlocks_map, ← hgroup, sortedOfKind, Forest.blocks_eq_map, List.filter_map]
    rfl
  have hrows : (sortedOfKind kind (forest.blocks options filter loose)).flatMap Block.rows
      = ((Forest.sortByTitle group).map Member.entry).filter
          fun entry => loose && options.showsLeaf entry := by
    rw [hblocks]
    apply flatMap_rows_eq_filter
    intro member hmember
    rw [Forest.mem_sortByTitle, ← hgroup, List.mem_filter, beq_iff_eq] at hmember
    obtain ⟨-, rfl⟩ := hmember
    unfold Member.block
    dsimp only
    rw [if_neg (by rw [Member.isContainer, hleaf]; decide), leafRows,
      beq_eq_false_iff_ne.2 hkind, Bool.false_or]
  rw [hrows]
  constructor
  · -- A filter takes from the sorted group what it takes from the group.
    have hfilter : (forest.map Member.entry).filter
          (fun entry => entry.kind == kind && loose && options.showsLeaf entry)
        = (group.map Member.entry).filter fun entry => loose && options.showsLeaf entry := by
      rw [← hgroup, List.filter_map, List.filter_map, List.filter_filter]
      congr 1
      apply List.filter_congr
      intro member _
      dsimp only [Function.comp_apply]
      cases member.entry.kind == kind <;> simp
    rw [hfilter]
    exact ((Forest.sortByTitle_perm group).map _).filter _
  · exact (Forest.inTitleOrder_sortByTitle group).sublist List.filter_sublist

/-- What stands below a container that is shown. -/
def Member.rowsBelow (member : Member) : List Entry :=
  match ownMembers? options filter member with
  | some own => arrange options (member.children.blocks options filter own)
  | none => []

theorem Member.rows_eq (member : Member) :
    member.rows options filter
      = if (ownMembers? options filter member).isSome
          then member.entry :: member.rowsBelow options filter else [] := by
  cases member with
  | node entry children =>
    unfold Member.rows Member.rowsBelow
    cases ownMembers? options filter (.node entry children) with
    | none => rfl
    | some own => rfl

/-- The rows of the containers, each in front of its own level. -/
theorem exists_containerGroup (loose : Bool) (forest : Forest) :
    ∃ containers, ContainerGroup options filter forest containers
      ∧ (sortBlocks ((forest.blocks options filter loose).filter fun block =>
          block.entry.kind.isContainer)).flatMap Block.rows
        = containers.flatMap fun member => member.entry :: member.rowsBelow options filter := by
  generalize hgroup : forest.filter Member.isContainer = group
  have hblocks : sortBlocks ((forest.blocks options filter loose).filter fun block =>
        block.entry.kind.isContainer)
      = (Forest.sortByTitle group).map (Member.block options filter loose) := by
    rw [← sortBlocks_map, ← hgroup, Forest.blocks_eq_map, List.filter_map]
    rfl
  refine ⟨(Forest.sortByTitle group).filter fun member =>
    (ownMembers? options filter member).isSome, ⟨?_, ?_⟩, ?_⟩
  · have hfilter : forest.filter
          (fun member => member.isContainer && (ownMembers? options filter member).isSome)
        = group.filter fun member => (ownMembers? options filter member).isSome := by
      rw [← hgroup, List.filter_filter]
      simp only [Bool.and_comm]
    rw [hfilter]
    exact (Forest.sortByTitle_perm group).filter _
  · exact (Forest.inTitleOrder_sortByTitle group).sublist (List.filter_sublist.map _)
  · have hcontainers : ∀ member ∈ Forest.sortByTitle group, member.isContainer = true := by
      intro member hmember
      rw [Forest.mem_sortByTitle, ← hgroup] at hmember
      exact (List.mem_filter.1 hmember).2
    -- A container that is not shown has no rows, and drops out of the list with them.
    rw [hblocks]
    generalize Forest.sortByTitle group = sorted at hcontainers
    induction sorted with
    | nil => rfl
    | cons member rest ih =>
      obtain ⟨hmember, hrest⟩ := List.forall_mem_cons.1 hcontainers
      have hrows : (member.block options filter loose).rows = member.rows options filter :=
        if_pos hmember
      rw [List.map_cons, List.flatMap_cons, hrows, ih hrest, Member.rows_eq, List.filter_cons]
      split
      · rfl
      · rfl

/-- **One level**, given what stands below each of its members. -/
theorem titleListing_of_below {options : Options} (hsort : options.sortMembers = true)
    (loose : Bool) {forest : Forest}
    (h : ∀ member ∈ forest, ∀ own, TitleListing options filter own member.children
      (arrange options (member.children.blocks options filter own))) :
    TitleListing options filter loose forest
      (arrange options (forest.blocks options filter loose)) := by
  obtain ⟨containers, hcontainers, hrows⟩ := exists_containerGroup options filter loose forest
  have hgroup : ∀ {kind : Kind}, kind.isContainer = false → kind ≠ .region → _ :=
    fun hleaf hkind => leafGroup_sortedOfKind options filter loose hleaf hkind forest
  rw [arrange, if_pos hsort]
  unfold sortLevel
  simp only [List.flatMap_append]
  rw [hrows]
  refine .level (hgroup rfl (by decide)) (hgroup rfl (by decide)) (hgroup rfl (by decide))
    (hgroup rfl (by decide)) hcontainers fun member hmember own hown => ?_
  have hthere := hcontainers.shown.mem_iff.1 hmember
  unfold Member.rowsBelow
  rw [hown]
  exact h member (List.mem_filter.1 hthere).1 own

mutual

theorem Member.titleListing_below {options : Options} (hsort : options.sortMembers = true) :
    (member : Member) → ∀ own, TitleListing options filter own member.children
      (arrange options (member.children.blocks options filter own))
  | .node _ children => fun own =>
    titleListing_of_below filter hsort own (Forest.titleListing_below hsort children)

theorem Forest.titleListing_below {options : Options} (hsort : options.sortMembers = true) :
    (forest : Forest) → ∀ member ∈ forest, ∀ own, TitleListing options filter own member.children
      (arrange options (member.children.blocks options filter own))
  | [] => List.forall_mem_nil _
  | member :: rest => List.forall_mem_cons.2
    ⟨Member.titleListing_below hsort member, Forest.titleListing_below hsort rest⟩

end

/-- **All levels.** -/
theorem Forest.titleListing {options : Options} (hsort : options.sortMembers = true)
    (loose : Bool) (forest : Forest) :
    TitleListing options filter loose forest
      (arrange options (forest.blocks options filter loose)) :=
  titleListing_of_below filter hsort loose (forest.titleListing_below filter hsort)

end Levels

/-! ## Siblings in another order -/

/-- Forests that differ in the order of siblings only, at any level. -/
inductive Forest.Reordered : Forest → Forest → Prop where
  | nil : Forest.Reordered [] []
  | cons {entry : Entry} {children children' rest rest' : Forest}
      (hchildren : Forest.Reordered children children') (hrest : Forest.Reordered rest rest') :
      Forest.Reordered (.node entry children :: rest) (.node entry children' :: rest')
  | swap (first second : Member) (rest : Forest) :
      Forest.Reordered (first :: second :: rest) (second :: first :: rest)
  | trans {first second third : Forest} (hfirst : Forest.Reordered first second)
      (hsecond : Forest.Reordered second third) : Forest.Reordered first third

/-- Whether members of the two kinds are listed in one group. -/
def Kind.SameGroup (a b : Kind) : Prop :=
  a.isContainer = true ∧ b.isContainer = true
    ∨ a = b ∧ (a = .constructor ∨ a = .method ∨ a = .property ∨ a = .field)

/-- No two siblings of one group have the same title. -/
def TitlesDiffer (items : List Item) : Prop :=
  items.Pairwise fun first second => first.kind.SameGroup second.kind → first.title ≠ second.title

instance (a b : Kind) : Decidable (a.SameGroup b) :=
  inferInstanceAs (Decidable (_ ∨ _))

instance (items : List Item) : Decidable (TitlesDiffer items) :=
  inferInstanceAs (Decidable (List.Pairwise _ _))

theorem Kind.SameGroup.symm {a b : Kind} (h : a.SameGroup b) : b.SameGroup a := by
  rcases h with ⟨ha, hb⟩ | ⟨rfl, hgroup⟩
  · exact .inl ⟨hb, ha⟩
  · exact .inr ⟨rfl, hgroup⟩

theorem TitlesDiffer.perm {items items' : List Item} (h : TitlesDiffer items)
    (hperm : items ~ items') : TitlesDiffer items' := by
  refine (hperm.pairwise_iff ?_).1 h
  intro first second hdiffer hgroup heq
  exact hdiffer hgroup.symm heq.symm

theorem Forest.Reordered.map_entry_perm {forest other : Forest} (h : forest.Reordered other) :
    forest.map Member.entry ~ other.map Member.entry := by
  induction h with
  | nil => exact .refl []
  | cons _ _ _ ih => exact ih.cons _
  | swap first second rest => exact .swap _ _ _
  | trans _ _ ih ih' => exact ih.trans ih'

/-- What does not depend on the order of siblings holds below the members of both forests. -/
theorem Forest.Reordered.everyLevel {P : List Item → Prop}
    (hP : ∀ {items items'}, P items → items ~ items' → P items') {forest other : Forest}
    (h : forest.Reordered other) (hforest : ∀ member ∈ forest, member.EveryLevel P) :
    ∀ member ∈ other, member.EveryLevel P := by
  induction h with
  | nil => exact hforest
  | cons hchildren _ ih ih' =>
    obtain ⟨⟨hlevel, hbelow⟩, hothers⟩ := List.forall_mem_cons.1 hforest
    have hperm := hchildren.map_entry_perm.map Entry.item
    rw [List.map_map, List.map_map] at hperm
    exact List.forall_mem_cons.2 ⟨.node (hP hlevel hperm) (ih hbelow), ih' hothers⟩
  | swap first second rest =>
    intro member hmember
    exact hforest member ((List.Perm.swap first second rest).mem_iff.1 hmember)
  | trans _ _ ih ih' => exact ih' (ih hforest)

theorem Forest.Reordered.holdsMatch {forest other : Forest} (h : forest.Reordered other)
    (options : Options) (filter : String) :
    forest.holdsMatch options filter = other.holdsMatch options filter := by
  induction h with
  | nil => rfl
  | cons _ _ ih ih' =>
    simp only [Forest.holdsMatch, Member.holdsMatch, Member.isContainer, Member.entry, ih, ih']
  | swap first second rest =>
    simp only [Forest.holdsMatch]
    rw [Bool.or_left_comm]
  | trans _ _ ih ih' => exact ih.trans ih'

/-- A container is shown or not, whatever the order of what stands in it. -/
theorem Forest.Reordered.ownMembers? {children children' : Forest}
    (h : Forest.Reordered children children') (options : Options) (filter : Option String)
    (entry : Entry) :
    SourceOutline.ownMembers? options filter (.node entry children)
      = SourceOutline.ownMembers? options filter (.node entry children') := by
  unfold SourceOutline.ownMembers?
  simp only [Member.holdsMatch, h.holdsMatch]
  rfl

/-- **A group has one order** once its titles differ. -/
theorem sortBlocks_eq_of_perm {blocks blocks' : List Block} (hperm : blocks ~ blocks')
    (hdiffer : blocks.Pairwise fun first second => first.entry.title ≠ second.entry.title) :
    sortBlocks blocks = sortBlocks blocks' := by
  have hsorted : ∀ blocks : List Block, (sortBlocks blocks).Pairwise fun first second =>
      titleLe first.entry.title second.entry.title = true := by
    intro blocks
    unfold sortBlocks
    exact pairwise_titleLe (fun block : Block => block.entry.title) blocks
  have hall : sortBlocks blocks ~ sortBlocks blocks' :=
    (sortBlocks_perm blocks).trans (hperm.trans (sortBlocks_perm blocks').symm)
  apply List.Perm.eq_of_pairwise ?_ (hsorted blocks) (hsorted blocks') hall
  intro first second hfirst hsecond hle hge
  -- Equal titles belong to one block, since no two of them share a title.
  have htitle := titleLe_antisymm hle hge
  rw [(sortBlocks_perm blocks).mem_iff] at hfirst
  rw [(sortBlocks_perm blocks').mem_iff, ← hperm.mem_iff] at hsecond
  have hnodup : (blocks.map fun block => block.entry.title).Nodup := List.pairwise_map.2 hdiffer
  exact List.inj_on_of_nodup_map hnodup hfirst hsecond htitle

theorem Kind.sameGroup_self {kind : Kind} (h : kind ≠ .region) : kind.SameGroup kind := by
  unfold Kind.SameGroup
  cases kind <;> simp [Kind.isContainer] at h ⊢

/-- **A level has one title order** once the titles of its groups differ. -/
theorem arrange_eq_of_perm {options : Options} (hsort : options.sortMembers = true)
    {blocks blocks' : List Block} (hperm : blocks ~ blocks')
    (hdiffer : TitlesDiffer (blocks.map fun block => block.entry.item)) :
    arrange options blocks = arrange options blocks' := by
  unfold TitlesDiffer at hdiffer
  rw [List.pairwise_map] at hdiffer
  -- Whatever takes the blocks of one group takes blocks of different titles.
  have hgroup : ∀ p : Block → Bool, (∀ first second, p first = true → p second = true →
      first.entry.kind.SameGroup second.entry.kind) →
      sortBlocks (blocks.filter p) = sortBlocks (blocks'.filter p) := by
    intro p hp
    refine sortBlocks_eq_of_perm (hperm.filter p) (List.pairwise_filter.2 (hdiffer.imp ?_))
    intro first second htitle hfirst hsecond
    exact htitle (hp first second hfirst hsecond)
  have hkind : ∀ kind : Kind, kind ≠ .region →
      sortedOfKind kind blocks = sortedOfKind kind blocks' := by
    intro kind hne
    apply hgroup
    intro first second hfirst hsecond
    rw [eq_of_beq hfirst, eq_of_beq hsecond]
    exact Kind.sameGroup_self hne
  rw [arrange, arrange, if_pos hsort, if_pos hsort]
  unfold sortLevel
  rw [hkind .constructor (by decide), hkind .method (by decide), hkind .property (by decide),
    hkind .field (by decide), hgroup _ fun _ _ hfirst hsecond => .inl ⟨hfirst, hsecond⟩]

theorem Forest.map_item_blocks (options : Options) (filter : Option String) (loose : Bool)
    (forest : Forest) :
    (forest.blocks options filter loose).map (fun block => block.entry.item)
      = forest.map fun member => member.entry.item := by
  rw [Forest.blocks_eq_map, List.map_map]
  rfl

/-- **The blocks of a level come along with their members.** What stands below a member is in
title order already, so it is the same wherever the members below it were declared. -/
theorem Forest.Reordered.blocks_perm {options : Options} (hsort : options.sortMembers = true)
    (filter : Option String) {forest other : Forest} (h : forest.Reordered other)
    (hdiffer : ∀ member ∈ forest, member.EveryLevel TitlesDiffer) (loose : Bool) :
    forest.blocks options filter loose ~ other.blocks options filter loose := by
  induction h generalizing loose with
  | nil => exact .refl []
  | @cons entry children children' rest rest' hchildren hrest ih ih' =>
    obtain ⟨hfirst, hothers⟩ := List.forall_mem_cons.1 hdiffer
    obtain ⟨hlevel, hbelow⟩ := hfirst
    have hrows : (Member.node entry children).rows options filter
        = (Member.node entry children').rows options filter := by
      unfold Member.rows
      rw [hchildren.ownMembers?]
      split
      · rename_i own _
        rw [arrange_eq_of_perm hsort (ih hbelow own)]
        rw [Forest.map_item_blocks]
        exact hlevel
      · rfl
    unfold Forest.blocks
    rw [hrows]
    exact (ih' hothers loose).cons _
  | swap first second rest =>
    unfold Forest.blocks
    unfold Forest.blocks
    exact .swap _ _ _
  | trans hfirst _ ih ih' =>
    exact (ih hdiffer loose).trans (ih' (hfirst.everyLevel TitlesDiffer.perm hdiffer) loose)

/-- **In title order an outline does not depend on the order of declarations.** Every level lists
the constructors that are shown, then methods, properties and fields, then each container with its
own level behind it, and every group is in the order of titles. If no two members of a group have
the same title, forests that differ in the order of siblings alone have the same outline. -/
theorem title_order_ignores_declaration_order (forest : Forest) (options : Options)
    (hsort : options.sortMembers = true) (encodesContainment : Bool) :
    (∃ rows, forest.emit options encodesContainment = rows.map Entry.item
      ∧ let filter := if encodesContainment then options.classFilter else none
        TitleListing options filter (options.containers.others && filter.isNone) forest rows)
    ∧ ∀ other, forest.Reordered other → forest.EveryLevel TitlesDiffer →
      other.emit options encodesContainment = forest.emit options encodesContainment := by
  unfold Forest.emit
  dsimp only
  generalize (if encodesContainment then options.classFilter else none) = filter
  generalize (options.containers.others && filter.isNone) = loose
  refine ⟨⟨_, rfl, forest.titleListing filter hsort loose⟩, ?_⟩
  intro other hother hdiffer
  have hblocks := hother.blocks_perm hsort filter hdiffer.below loose
  have htop : TitlesDiffer ((forest.blocks options filter loose).map fun block =>
      block.entry.item) := by
    rw [Forest.map_item_blocks]
    exact hdiffer.level
  rw [arrange_eq_of_perm hsort hblocks htop]

/-- Two blocks change places if the second one's title comes first. -/
theorem sortBlocks_pair (first second : Block)
    (h : titleLe first.entry.title second.entry.title = false) :
    sortBlocks [first, second] = [second, first] := by
  simp [sortBlocks, List.mergeSort, List.MergeSort.Internal.splitInTwo, h]

/-- Two classes whose titles differ by more than case, one of them with members of three groups
that change places. -/
theorem title_order_ignores_declaration_order_of_two_classes :
    let leaf (kind : Kind) (name : String) : Member :=
      .leaf { kind := kind, name := name, startLine := 0, parent := { types := ["B"] } }
    let outer (children : Forest) : Member :=
      .node { kind := .classType, name := "B", startLine := 0 } children
    let inner : Member := .node { kind := .structType, name := "a", startLine := 0 } []
    let forest : Forest := [outer [leaf .field "x", leaf .method "f", leaf .constructor "B"], inner]
    let other : Forest := [inner, outer [leaf .method "f", leaf .field "x", leaf .constructor "B"]]
    ({} : Options).sortMembers = true
    ∧ forest.Reordered other
    ∧ forest.EveryLevel TitlesDiffer
    ∧ (forest.emit {} true).map Item.title = ["a", "B", "B", "f", "x"]
    ∧ (∃ rows, forest.emit {} true = rows.map Entry.item ∧ TitleListing {} none true forest rows)
    ∧ other.emit {} true = forest.emit {} true := by
  intro leaf outer inner forest other
  have hleaf : ∀ kind name, (leaf kind name).EveryLevel TitlesDiffer := fun kind name =>
    .node (by decide) (List.forall_mem_nil _)
  have hdiffer : forest.EveryLevel TitlesDiffer := by
    refine ⟨by decide, List.forall_mem_cons.2 ⟨.node (by decide) ?_, ?_⟩⟩
    · simp [hleaf]
    · exact List.forall_mem_singleton.2 (.node (by decide) (List.forall_mem_nil _))
  have hreordered : forest.Reordered other :=
    .trans (.cons (.swap _ _ _) (.cons .nil .nil)) (.swap _ _ _)
  have htitles : (forest.emit {} true).map Item.title = ["a", "B", "B", "f", "x"] := by
    have hblocks : forest.blocks {} none true = [
        ⟨(outer []).entry,
          (outer [leaf .constructor "B", leaf .method "f", leaf .field "x"]).entries⟩,
        ⟨inner.entry, inner.entries⟩] := by
      cbv
    have hle : titleLe (outer []).entry.title inner.entry.title = false := by decide +kernel
    -- The top level has containers only.
    have hlevel : sortLevel (forest.blocks {} none true)
        = sortBlocks (forest.blocks {} none true) := by
      rw [hblocks]
      unfold sortLevel sortedOfKind
      simp [sortBlocks, outer, inner, Kind.isContainer, Member.entry]
    have hrows : arrange {} (forest.blocks {} none true) = inner.entries
        ++ (outer [leaf .constructor "B", leaf .method "f", leaf .field "x"]).entries := by
      unfold arrange
      rewrite [if_pos rfl, hlevel, hblocks,
        sortBlocks_pair ⟨(outer []).entry, _⟩ ⟨inner.entry, _⟩ hle]
      simp
    have hemit : forest.emit {} true = (arrange {} (forest.blocks {} none true)).map Entry.item :=
      rfl
    rewrite [hemit, hrows]
    rfl
  obtain ⟨hlisting, hsame⟩ := title_order_ignores_declaration_order forest {} rfl true
  exact ⟨rfl, hreordered, hdiffer, htitles, hlisting, hsame other hreordered hdiffer⟩

end SourceOutline
