/-
In declaration order every list of siblings is in the order of lines.

A list of siblings comes together in several ways: a mapper lists the members of a
container, region markers are put between them by line, and nested containers are added to
those that own them. Only some of these sort. `Forest.LineSorted` says that all lists of a
forest are in order, those below containers included, and each stage keeps it: a marker goes
in front of the first member that begins after it, and a container that takes others in is
sorted again (`Member.keepsJoining_lineSorted`).

What an outline shows is a part of the nested forest, and without sorting by title it is
written out as it stands. `Forest.shown` is that part as a tree. Its lists are sublists of
those of the forest, so they are in order too. It is the only tree whose rows are as deep as
they stand in it, and so what a reader of the rows sees.
-/
import SourceOutline.Proofs.Hierarchy
import SourceOutline.Proofs.Regions

set_option autoImplicit false

namespace SourceOutline

open scoped List

/-! ## Forests in the order of lines -/

/-- A member in which the lists below containers are in the order of lines. -/
inductive Member.LineSorted : Member → Prop where
  | node {entry : Entry} {children : Forest}
      (hordered : entry.kind.isContainer = true → children.InLineOrder)
      (hbelow : entry.kind.isContainer = true → ∀ child ∈ children, child.LineSorted) :
      Member.LineSorted (.node entry children)

/-- A forest in which every list of siblings is in the order of lines. -/
structure Forest.LineSorted (forest : Forest) : Prop where
  ordered : forest.InLineOrder
  below : ∀ member ∈ forest, member.LineSorted

theorem Member.LineSorted.children {member : Member} (h : member.LineSorted)
    (hcontainer : member.isContainer = true) : member.children.LineSorted := by
  cases h with
  | node hordered hbelow => exact ⟨hordered hcontainer, hbelow hcontainer⟩

theorem Member.lineSorted_of_children {member : Member}
    (h : member.isContainer = true → member.children.LineSorted) : member.LineSorted := by
  cases member with
  | node entry children =>
    exact .node (fun hcontainer => (h hcontainer).ordered) fun hcontainer => (h hcontainer).below

theorem Member.lineSorted_of_plain {member : Member} (h : member.isContainer = false) :
    member.LineSorted := by
  refine Member.lineSorted_of_children fun hcontainer => ?_
  rw [h] at hcontainer
  cases hcontainer

/-- The order of a list can be told from its entries. -/
theorem Forest.inLineOrder_iff {forest : Forest} :
    forest.InLineOrder
      ↔ (forest.map Member.entry).Pairwise fun first second =>
          first.startLine ≤ second.startLine := by
  rw [List.pairwise_map]
  rfl

theorem Forest.lineSorted_sortByLine {forest : Forest} (h : ∀ member ∈ forest, member.LineSorted) :
    forest.sortByLine.LineSorted :=
  ⟨forest.inLineOrder_sortByLine, fun member hmember =>
    h member (forest.sortByLine_perm.mem_iff.1 hmember)⟩

/-- A mapper lists no container below another, so one level is all there is. -/
theorem Forest.WellFormed.lineSorted {forest : Forest} (h : forest.WellFormed) :
    forest.LineSorted := by
  refine ⟨h.ordered, fun member hmember => Member.lineSorted_of_children fun hcontainer => ?_⟩
  refine ⟨h.childrenOrdered member hmember hcontainer, fun child hchild => ?_⟩
  exact Member.lineSorted_of_plain (h.children member hmember hcontainer child hchild).1

/-! ## Markers -/

theorem Forest.InLineOrder.insertByLine {forest : Forest} (h : forest.InLineOrder)
    (marker : Member) : (forest.insertByLine marker).InLineOrder := by
  induction forest with
  | nil => exact List.pairwise_singleton _ _
  | cons other rest ih =>
    obtain ⟨hother, hrest⟩ := List.pairwise_cons.1 h
    rw [Forest.insertByLine]
    split
    · rename_i hle
      refine List.pairwise_cons.2 ⟨fun member hmember => ?_, ih hrest⟩
      rcases Forest.mem_insertByLine.1 hmember with rfl | hold
      · exact hle
      · exact hother member hold
    · rename_i hlt
      refine List.pairwise_cons.2 ⟨List.forall_mem_cons.2 ⟨by omega, ?_⟩, h⟩
      intro member hmember
      have hle := hother member hmember
      omega

/-- **One marker** goes where its line belongs, whichever level that is. -/
theorem Forest.InLineOrder.place {forest : Forest} (h : forest.InLineOrder) (marker : Member)
    (placement : Placement) : (forest.place marker placement).InLineOrder := by
  cases placement with
  | topLevel path => exact h.insertByLine _
  | inside startLine path =>
    rw [Forest.place]
    split
    · rename_i forest' hinsert
      rw [Forest.inLineOrder_iff, Forest.map_entry_insertInside? hinsert, ← Forest.inLineOrder_iff]
      exact h
    · exact h.insertByLine _

/-- What there is once a marker is placed: the marker, what was there before, and the
container that took it in. -/
theorem Forest.mem_place {forest : Forest} {marker member : Member} {placement : Placement}
    (h : member ∈ forest.place marker placement) :
    (∃ path, member = marker.under path) ∨ member ∈ forest
      ∨ ∃ host ∈ forest, ∃ path,
        member = .node host.entry (Forest.insertByLine (marker.under path) host.children) := by
  have hbeside : ∀ path, member ∈ forest.insertByLine (marker.under path) →
      (∃ path, member = marker.under path) ∨ member ∈ forest := by
    intro path hmember
    exact (Forest.mem_insertByLine.1 hmember).imp_left fun heq => ⟨path, heq⟩
  cases placement with
  | topLevel path => exact (hbeside path h).imp_right Or.inl
  | inside startLine path =>
    rw [Forest.place] at h
    split at h
    · rename_i forest' hinsert
      rcases Forest.mem_insertInside? hinsert h with hold | ⟨host, hhost, -, rfl⟩
      · exact .inr (.inl hold)
      · exact .inr (.inr ⟨host, hhost, path, rfl⟩)
    · exact (hbeside .root h).imp_right Or.inl

theorem Member.IsMark.lineSorted_under {marker : Member} (h : marker.IsMark) (path : Ancestry) :
    (marker.under path).LineSorted := by
  refine Member.lineSorted_of_plain ?_
  have hkind : marker.entry.kind = .region := eq_of_beq h.1
  rw [Member.isContainer, Member.entry_under, Entry.under, hkind]
  rfl

theorem Forest.LineSorted.place {forest : Forest} (h : forest.LineSorted) {marker : Member}
    (hmarker : marker.IsMark) (placement : Placement) :
    (forest.place marker placement).LineSorted := by
  refine ⟨h.ordered.place marker placement, ?_⟩
  intro member hmember
  rcases Forest.mem_place hmember with ⟨path, rfl⟩ | hold | ⟨host, hhost, path, rfl⟩
  · exact hmarker.lineSorted_under path
  · exact h.below member hold
  · refine Member.lineSorted_of_children fun hcontainer => ?_
    have hchildren := (h.below host hhost).children hcontainer
    refine ⟨hchildren.ordered.insertByLine _, fun child hchild => ?_⟩
    rcases Forest.mem_insertByLine.1 hchild with rfl | hold
    · exact hmarker.lineSorted_under path
    · exact hchildren.below child hold

/-- What placing one marker keeps, whatever its place, splicing keeps. -/
theorem Forest.spliceWith_keeps {P : Forest → Prop} {Q : Member → Prop}
    (hplace : ∀ {forest : Forest} {marker : Member}, P forest → Q marker →
      ∀ placement, P (forest.place marker placement))
    (spans : List NamespaceSpan) (stack : List Placement) {forest : Forest} (h : P forest)
    {markers : List Member} (hmarkers : ∀ marker ∈ markers, Q marker) :
    P (forest.spliceWith spans stack markers) := by
  induction markers generalizing forest stack with
  | nil =>
    rw [Forest.spliceWith]
    exact h
  | cons marker rest ih =>
    obtain ⟨hmarker, hrest⟩ := List.forall_mem_cons.1 hmarkers
    unfold Forest.spliceWith
    split
    · split
      · exact ih _ (hplace h hmarker _) hrest
      · exact ih _ (hplace h hmarker _) hrest
    · exact ih _ (hplace h hmarker _) hrest

/-- **All markers.** -/
theorem Forest.LineSorted.spliceWith {forest : Forest} (h : forest.LineSorted)
    (spans : List NamespaceSpan) (stack : List Placement) {markers : List Member}
    (hmarkers : ∀ marker ∈ markers, marker.IsMark) :
    (forest.spliceWith spans stack markers).LineSorted :=
  Forest.spliceWith_keeps (fun hforest hmarker => hforest.place hmarker) spans stack h hmarkers

/-! ## Identities and colors -/

/-- Changes of an entry that leave its kind and its line alone. -/
structure KeepsLine (f : Entry → Entry) : Prop where
  kind : ∀ entry, (f entry).kind = entry.kind
  startLine : ∀ entry, (f entry).startLine = entry.startLine

theorem Forest.inLineOrder_mapEntries_iff {f : Entry → Entry} (hf : KeepsLine f)
    {forest : Forest} : (forest.mapEntries f).InLineOrder ↔ forest.InLineOrder := by
  rw [Forest.inLineOrder_iff, Forest.map_entry_mapEntries, List.pairwise_map, Forest.inLineOrder_iff]
  simp only [hf.startLine]

mutual

theorem Member.lineSorted_mapEntries_iff {f : Entry → Entry} (hf : KeepsLine f) :
    (member : Member) → ((member.mapEntries f).LineSorted ↔ member.LineSorted)
  | .node entry children => by
    have hordered : (Forest.mapEntries f children).InLineOrder ↔ Forest.InLineOrder children :=
      Forest.inLineOrder_mapEntries_iff hf
    have hbelow := Forest.below_lineSorted_mapEntries_iff hf children
    rw [Member.mapEntries]
    constructor
    · rintro ⟨hordered', hbelow'⟩
      rw [hf.kind] at hordered' hbelow'
      exact .node (fun h => hordered.1 (hordered' h)) fun h => hbelow.1 (hbelow' h)
    · rintro ⟨hordered', hbelow'⟩
      rw [← hf.kind] at hordered' hbelow'
      exact .node (fun h => hordered.2 (hordered' h)) fun h => hbelow.2 (hbelow' h)

theorem Forest.below_lineSorted_mapEntries_iff {f : Entry → Entry} (hf : KeepsLine f) :
    (forest : Forest) →
      ((∀ member ∈ forest.mapEntries f, member.LineSorted) ↔ ∀ member ∈ forest, member.LineSorted)
  | [] => Iff.rfl
  | member :: rest => by
    rw [Forest.mapEntries, List.forall_mem_cons, List.forall_mem_cons,
      Member.lineSorted_mapEntries_iff hf member, Forest.below_lineSorted_mapEntries_iff hf rest]

end

theorem Forest.lineSorted_mapEntries_iff {f : Entry → Entry} (hf : KeepsLine f)
    (forest : Forest) : (forest.mapEntries f).LineSorted ↔ forest.LineSorted := by
  have hordered : (forest.mapEntries f).InLineOrder ↔ forest.InLineOrder :=
    Forest.inLineOrder_mapEntries_iff hf
  have hbelow := Forest.below_lineSorted_mapEntries_iff hf forest
  exact ⟨fun h => ⟨hordered.1 h.ordered, hbelow.1 h.below⟩,
    fun h => ⟨hordered.2 h.ordered, hbelow.2 h.below⟩⟩

theorem Forest.LineSorted.assignIds {forest : Forest} (h : forest.LineSorted)
    (tokens : Nat → String) : (forest.assignIds tokens).LineSorted := by
  have hf : KeepsLine fun entry => { entry with id := "" } := ⟨fun _ => rfl, fun _ => rfl⟩
  -- With all identities blanked the two forests are the same.
  have hwalk : (forest.assignIds tokens).mapEntries (fun entry => { entry with id := "" })
      = forest.mapEntries fun entry => { entry with id := "" } :=
    Forest.mapEntries_assignIdsFrom (fun _ _ => rfl) tokens [] forest
  rw [← Forest.lineSorted_mapEntries_iff hf, hwalk, Forest.lineSorted_mapEntries_iff hf]
  exact h

theorem Forest.LineSorted.joinColors {forest : Forest} (h : forest.LineSorted)
    (bookmarks : Bookmarks) (key : Option String) :
    (forest.joinColors bookmarks key).LineSorted := by
  cases key with
  | none => exact h
  | some key =>
    have hf : KeepsLine fun entry => { entry with colorTag := bookmarks.color? key entry.id } :=
      ⟨fun _ => rfl, fun _ => rfl⟩
    exact (Forest.lineSorted_mapEntries_iff hf forest).2 h

/-- What a mapper lists in order is in order once markers and identities are in. -/
theorem Mapping.lineSorted_identified {mapping : Mapping}
    (h : ∀ member ∈ mapping.members, member.LineSorted) (style : MarkerStyle) (source : String)
    (tokens : Nat → String) : (mapping.identified style source tokens).LineSorted := by
  have hsorted := Forest.lineSorted_sortByLine h
  rw [Mapping.identified]
  refine Forest.LineSorted.assignIds ?_ tokens
  split
  · exact hsorted.spliceWith _ [] (style.closes_scan source _).isMark
  · exact hsorted

/-! ## Nesting -/

theorem Member.keepsJoining_lineSorted : KeepsJoining Member.LineSorted := by
  intro parent others hparent hcontainer hothers
  refine Member.lineSorted_of_children fun _ => Forest.lineSorted_sortByLine ?_
  exact List.forall_mem_append.2
    ⟨(hparent.children hcontainer).below, fun other hother => (hothers other hother).1⟩

/-- A container is sorted again when it takes others in, and so is the file at the end. -/
theorem Forest.LineSorted.nest {forest : Forest} (h : forest.LineSorted) :
    forest.nest.LineSorted := by
  obtain ⟨roots, hnest, -, hbelow⟩ := Forest.nest_keeping Member.keepsJoining_lineSorted h.below
  rw [hnest]
  exact Forest.lineSorted_sortByLine hbelow

/-! ## The tree of what is shown -/

mutual

/-- The part of a container that is shown. -/
def Member.shown (options : Options) (filter : Option String) : Member → Forest
  | .node entry children =>
    match ownMembers? options filter (.node entry children) with
    | some own => [.node entry (Forest.shown options filter own children)]
    | none => []

/-- The part of a level that is shown. -/
def Forest.shown (options : Options) (filter : Option String) (loose : Bool) : Forest → Forest
  | [] => []
  | member :: rest =>
    (if member.isContainer then member.shown options filter
      else (leafRows options loose member.entry).map Member.leaf)
    ++ Forest.shown options filter loose rest

end

theorem Forest.entries_map_leaf (entries : List Entry) :
    Forest.entries (entries.map Member.leaf) = entries := by
  induction entries with
  | nil => rfl
  | cons entry rest ih =>
    rw [List.map_cons, Forest.entries, ih, Member.leaf, Member.entries, Forest.entries,
      List.singleton_append]

section Shown

variable {options : Options} {filter : Option String}

mutual

theorem Member.entries_shown (hsort : options.sortMembers = false) :
    (member : Member) →
      Forest.entries (member.shown options filter) = member.rows options filter
  | .node entry children => by
    rw [Member.shown, Member.rows]
    cases ownMembers? options filter (.node entry children) with
    | none => rfl
    | some own =>
      dsimp only
      rw [arrange_unsorted hsort, ← Forest.entries_shown hsort own children, Forest.entries,
        Member.entries, Forest.entries, List.append_nil]

/-- Without sorting, the rows are the preorder of what is shown. -/
theorem Forest.entries_shown (hsort : options.sortMembers = false) (loose : Bool) :
    (forest : Forest) → (forest.shown options filter loose).entries
      = (forest.blocks options filter loose).flatMap Block.rows
  | [] => rfl
  | member :: rest => by
    rw [Forest.shown, Forest.blocks, List.flatMap_cons, Forest.entries_append,
      Forest.entries_shown hsort loose rest]
    dsimp only
    congr 1
    split
    · exact Member.entries_shown hsort member
    · exact Forest.entries_map_leaf _

end

theorem Member.map_entry_shown_sublist (member : Member) :
    (member.shown options filter).map Member.entry <+ [member.entry] := by
  cases member with
  | node entry children =>
    rw [Member.shown]
    split
    · exact .refl _
    · exact List.nil_sublist _

theorem leafRows_sublist (loose : Bool) (entry : Entry) :
    leafRows options loose entry <+ [entry] := by
  rw [leafRows]
  split
  · exact .refl _
  · exact List.nil_sublist _

/-- A level that is shown is a part of the level there is, in the same order. -/
theorem Forest.map_entry_shown_sublist (loose : Bool) (forest : Forest) :
    (forest.shown options filter loose).map Member.entry <+ forest.map Member.entry := by
  induction forest with
  | nil => exact .refl _
  | cons member rest ih =>
    rw [Forest.shown, List.map_append, List.map_cons, ← List.singleton_append]
    refine List.Sublist.append ?_ ih
    split
    · exact member.map_entry_shown_sublist
    · have hentries : (leafRows options loose member.entry).map (Member.entry ∘ Member.leaf)
          = leafRows options loose member.entry := List.map_id _
      rw [List.map_map, hentries]
      exact leafRows_sublist loose member.entry

theorem Forest.exists_entry_of_mem_shown {loose : Bool} {forest : Forest} {shown : Member}
    (h : shown ∈ forest.shown options filter loose) :
    ∃ member ∈ forest, member.entry = shown.entry := by
  have hentry := (Forest.map_entry_shown_sublist loose forest).subset (List.mem_map_of_mem h)
  exact List.mem_map.1 hentry

/-- What carries over from the members there are to those that are shown. Containers are
shown with a part of what stands in them, and everything else without anything below it. -/
structure CarriesOver (options : Options) (filter : Option String) (given result : Member → Prop) :
    Prop where
  leaf : ∀ entry, result (.leaf entry)
  below : ∀ entry children, entry.kind.isContainer = true → given (.node entry children) →
    ∀ child ∈ children, given child
  node : ∀ entry children own, entry.kind.isContainer = true → given (.node entry children) →
    (∀ child ∈ Forest.shown options filter own children, result child) →
    result (.node entry (Forest.shown options filter own children))

mutual

theorem Member.forall_mem_shown {given result : Member → Prop}
    (h : CarriesOver options filter given result) :
    (member : Member) → given member → member.isContainer = true →
      ∀ shown ∈ member.shown options filter, result shown
  | .node entry children, hgiven, hcontainer => by
    rw [Member.shown]
    split
    · rename_i own hown
      intro shown hshown
      rw [List.mem_singleton.1 hshown]
      exact h.node entry children own hcontainer hgiven
        (Forest.forall_mem_shown h own children (h.below entry children hcontainer hgiven))
    · exact List.forall_mem_nil _

/-- **Induction on what is shown.** -/
theorem Forest.forall_mem_shown {given result : Member → Prop}
    (h : CarriesOver options filter given result) (loose : Bool) :
    (forest : Forest) → (∀ member ∈ forest, given member) →
      ∀ shown ∈ forest.shown options filter loose, result shown
  | [], _ => List.forall_mem_nil _
  | member :: rest, hgiven => by
    obtain ⟨hmember, hrest⟩ := List.forall_mem_cons.1 hgiven
    rw [Forest.shown]
    refine List.forall_mem_append.2 ⟨?_, Forest.forall_mem_shown h loose rest hrest⟩
    split
    · rename_i hcontainer
      exact Member.forall_mem_shown h member hmember hcontainer
    · intro shown hshown
      obtain ⟨entry, -, rfl⟩ := List.mem_map.1 hshown
      exact h.leaf entry

end

theorem Member.InPlace.children {entry : Entry} {children : Forest}
    (h : (Member.node entry children).InPlace) (hcontainer : entry.kind.isContainer = true) :
    ∀ child ∈ children, child.entry.parent = entry.childPath ∧ child.InPlace := by
  cases h with
  | plain hplain =>
    rw [hplain] at hcontainer
    cases hcontainer
  | container hparent hbelow => exact fun child hchild => ⟨hparent child hchild, hbelow child hchild⟩

/-- What is shown of members in place is a tree of rows. -/
theorem Forest.seated_shown (loose : Bool) {forest : Forest}
    (h : ∀ member ∈ forest, member.InPlace) :
    ∀ shown ∈ forest.shown options filter loose, shown.Seated := by
  refine Forest.forall_mem_shown ⟨?_, ?_, ?_⟩ loose forest h
  · exact fun entry => .node (absurd rfl) (List.forall_mem_nil _) (List.forall_mem_nil _)
  · exact fun entry children hcontainer hplace child hchild =>
      (hplace.children hcontainer child hchild).2
  · intro entry children own hcontainer hplace hshown
    refine .node (fun _ => hcontainer) (fun child hchild => ?_) hshown
    obtain ⟨old, hold, heq⟩ := Forest.exists_entry_of_mem_shown hchild
    rw [← heq]
    exact (hplace.children hcontainer old hold).1

end Shown

/-! ## Lists of items in order -/

/-- Items side by side in the order of their lines. What lies between the lines of two
markers that belong together stands between them. -/
structure SiblingsInOrder (items : List Item) : Prop where
  ordered : items.Pairwise fun first second => first.startLine ≤ second.startLine
  enclosed : ∀ i j k opening closing item, Matched (items.map Item.boundary?) i j →
    items[i]? = some opening → items[j]? = some closing → items[k]? = some item →
    opening.startLine < item.startLine → item.startLine < closing.startLine → i < k ∧ k < j

/-- In a list in order, what has a greater line stands behind. -/
theorem lt_of_startLine_lt {items : List Item}
    (h : items.Pairwise fun first second => first.startLine ≤ second.startLine) {i k : Nat}
    {first second : Item} (hi : items[i]? = some first) (hk : items[k]? = some second)
    (hlt : first.startLine < second.startLine) : i < k := by
  obtain ⟨hi', rfl⟩ := List.getElem?_eq_some_iff.1 hi
  obtain ⟨hk', rfl⟩ := List.getElem?_eq_some_iff.1 hk
  by_contra hle
  rcases Nat.lt_or_eq_of_le (Nat.le_of_not_lt hle) with hki | rfl
  · have hordered := List.pairwise_iff_getElem.1 h k i hk' hi' hki
    omega
  · omega

theorem SiblingsInOrder.of_ordered {items : List Item}
    (h : items.Pairwise fun first second => first.startLine ≤ second.startLine) :
    SiblingsInOrder items := by
  refine ⟨h, ?_⟩
  intro i j k opening closing item _ hi hj hk hafter hbefore
  exact ⟨lt_of_startLine_lt h hi hk hafter, lt_of_startLine_lt h hk hj hbefore⟩

theorem SiblingsInOrder.shown {forest : Forest} (h : forest.InLineOrder) (options : Options)
    (filter : Option String) (loose : Bool) :
    SiblingsInOrder ((forest.shown options filter loose).map fun member => member.entry.item) := by
  have hsublist : (forest.shown options filter loose).map Member.entry <+ forest.map Member.entry :=
    Forest.map_entry_shown_sublist loose forest
  have hordered := (Forest.inLineOrder_iff.1 h).sublist hsublist
  refine .of_ordered ?_
  rw [List.pairwise_map] at hordered ⊢
  exact hordered

/-- Something holds of every list of siblings inside a member. -/
inductive Member.EveryLevel (P : List Item → Prop) : Member → Prop where
  | node {entry : Entry} {children : Forest}
      (hlevel : P (children.map fun child => child.entry.item))
      (hbelow : ∀ child ∈ children, child.EveryLevel P) : Member.EveryLevel P (.node entry children)

/-- Something holds of every list of siblings of a forest, from the top down. -/
structure Forest.EveryLevel (P : List Item → Prop) (forest : Forest) : Prop where
  level : P (forest.map fun member => member.entry.item)
  below : ∀ member ∈ forest, member.EveryLevel P

/-- **Every list that is shown is in order.** -/
theorem Forest.LineSorted.everyLevel_shown {forest : Forest} (h : forest.LineSorted)
    (options : Options) (filter : Option String) (loose : Bool) :
    (forest.shown options filter loose).EveryLevel SiblingsInOrder := by
  refine ⟨.shown h.ordered options filter loose, ?_⟩
  refine Forest.forall_mem_shown ⟨?_, ?_, ?_⟩ loose forest h.below
  · exact fun entry => .node (.of_ordered .nil) (List.forall_mem_nil _)
  · exact fun entry children hcontainer hsorted => (hsorted.children hcontainer).below
  · exact fun entry children own hcontainer hsorted hshown =>
      .node (.shown (hsorted.children hcontainer).ordered options filter own) hshown

/-! ## Outlines -/

/-- The rows of an outline in declaration order, and the one tree that they are the preorder
of. -/
theorem Forest.Housed.emit_unsorted {forest : Forest} (h : forest.Housed)
    (hsorted : forest.LineSorted) {options : Options} (hsort : options.sortMembers = false)
    (encodesContainment : Bool) :
    ∃ rows, forest.nest.emit options encodesContainment = rows.map Entry.item
      ∧ (∃! shown : Forest, shown.Leveled 0 ∧ shown.entries = rows)
      ∧ ∀ shown : Forest, shown.Leveled 0 → shown.entries = rows →
        shown.EveryLevel SiblingsInOrder := by
  rw [Forest.emit]
  generalize (if encodesContainment then options.classFilter else none) = filter
  generalize (options.containers.others && filter.isNone) = loose
  have hplace := h.nest
  have hentries : (forest.nest.shown options filter loose).entries
      = arrange options (forest.nest.blocks options filter loose) := by
    rw [arrange_unsorted hsort, Forest.entries_shown hsort]
  have hseated : ∀ member ∈ forest.nest.shown options filter loose,
      member.entry.parent.types = [] ∧ member.Seated := by
    intro member hmember
    obtain ⟨old, hold, heq⟩ := Forest.exists_entry_of_mem_shown hmember
    refine ⟨by rw [← heq]; exact (hplace old hold).1, ?_⟩
    exact Forest.seated_shown loose (fun member hmember => (hplace member hmember).2) member hmember
  have hunique := Displays.existsUnique_leveled ⟨_, hentries, hseated⟩
  refine ⟨_, rfl, hunique, fun shown hleveled hrows => ?_⟩
  -- There is one such tree only, so it is the part of the forest that is shown.
  rw [hunique.unique ⟨hleveled, hrows⟩ ⟨Forest.leveled_of_seated hseated, hentries⟩]
  exact hsorted.nest.everyLevel_shown options filter loose

/-- What a mapper lists below a container is in the order of lines. A parser is only asked
for trees in document order. -/
theorem Language.lineSorted_mapping (parse : String → CSharp.SyntaxNode) (language : Language)
    (hparse : language.readsTree = true → ∀ text, (parse text).InDocumentOrder) (source : String)
    (options : MapOptions) :
    ∀ member ∈ (language.mapping parse source options).members, member.LineSorted := by
  cases language with
  | csharp => exact (CSharp.Reading.wellFormed_mapping _ (hparse rfl source)).lineSorted.below
  | razor =>
    rw [Language.mapping, Razor.mapping]
    split
    · exact (CSharp.Reading.wellFormed_mapping _ (hparse rfl _)).lineSorted.below
    · exact List.forall_mem_nil _
  | python =>
    exact (LineScan.wellFormed_forest (Python.unmarked_classifier _) source).lineSorted.below
  | javascript | typescript =>
    exact (LineScan.wellFormed_forest (Script.unmarked_classifier _) source).lineSorted.below
  | css => exact (Stylesheet.wellFormed_members source).lineSorted.below

/-- **In declaration order every list of siblings is in the order of lines**, for every
source in every language and for all options that do not sort. The rows of the outline are
the preorder of exactly one tree in which they are as deep as they stand. At its top and
inside each of its containers the lines never decrease, and whatever lies between the lines
of two markers that belong together stands between the two. -/
theorem siblings_in_line_order {σ : Type} (parse : String → CSharp.SyntaxNode)
    (generator : Generator σ) (hfactory : generator.factory = factoryWith parse)
    (source : Source)
    (hparse : ∀ language, generator.registry.resolve source.extension = some language →
      language.readsTree = true → ∀ text, (parse text).InDocumentOrder)
    (options : Options) (hsort : options.sortMembers = false) (world after : World σ)
    (outline : Outline)
    (hready : generator.generate source options world = (.ready outline, after)) :
    ∃ rows, outline.items = rows.map Entry.item
      ∧ (∃! shown : Forest, shown.Leveled 0 ∧ shown.entries = rows)
      ∧ ∀ shown : Forest, shown.Leveled 0 → shown.entries = rows →
        shown.EveryLevel SiblingsInOrder := by
  obtain ⟨run, rfl, -⟩ := Generator.generate_ready hready
  have hforest := Completion.forest_eq hfactory run.resolved run.read run
  have hhoused : run.forest.Housed := by
    rw [hforest]
    exact Mapping.housed_identified (run.language.listed_mapping parse run.text _) _ _ _
  have hsorted : run.forest.LineSorted := by
    rw [hforest]
    exact Mapping.lineSorted_identified
      (run.language.lineSorted_mapping parse (hparse run.language run.resolved) run.text _) _ _ _
  exact (hhoused.joinColors world.store.bookmarks source.fileKey?).emit_unsorted
    (hsorted.joinColors world.store.bookmarks source.fileKey?) hsort _

/-- A class with a region around a function of it, and with a class in it. -/
theorem siblings_in_line_order_of_nested_class :
    let info (kind : CSharp.NodeKind) (role : Option CSharp.Role) (first last : Nat)
        (text : String) : CSharp.NodeInfo :=
      { kind := kind, role := role, start := { row := first }, stop := { row := last },
        text := text }
    let name (row : Nat) (text : String) : CSharp.SyntaxNode :=
      .node (info .identifier (some .name) row row text) []
    let inner : CSharp.SyntaxNode := .node (info .classDeclaration none 4 4 "") [name 4 "B"]
    let outer : CSharp.SyntaxNode := .node (info .classDeclaration none 0 5 "")
      [name 0 "A", .node (info .body (some .body) 0 5 "")
        [.node (info .methodDeclaration none 2 2 "") [name 2 "f"], inner]]
    let tree : CSharp.SyntaxNode := .node (info .unit none 0 5 "") [outer]
    let text := "class A \x7b\n#region R\nvoid f() \x7b \x7d\n#endregion\nclass B \x7b \x7d\n\x7d"
    let source : Source := .text text "cs" none
    let generator : Generator Unit := {
      registry := Registry.empty.register "cs" .csharp
      factory := factoryWith fun _ => tree
      maxAttempts := 1
      tokens := fun _ => "token"
      stamp := { timestamp := "" } }
    let options : Options := { sortMembers := false }
    let world : World Unit := ⟨{ home := "/" }, .inMemory, ()⟩
    tree.InDocumentOrder
    ∧ (MarkerStyle.directive.scan text 0).map (fun marker => (marker.entry.title, marker.startLine))
      = [("<R>", 1), ("</R>", 3)]
    ∧ (Language.csharp.mapping (fun _ => tree) text {}).members.entries.map
        (fun entry => (entry.title, entry.startLine))
      = [("A", 0), ("f()", 2), ("B", 4)]
    ∧ ∃ outline after, generator.generate source options world = (.ready outline, after)
      ∧ ∃ rows, outline.items = rows.map Entry.item
        ∧ (∃! shown : Forest, shown.Leveled 0 ∧ shown.entries = rows)
        ∧ ∀ shown : Forest, shown.Leveled 0 → shown.entries = rows →
          shown.EveryLevel SiblingsInOrder := by
  intro info name inner outer tree text source generator options world
  have horder : tree.InDocumentOrder := ⟨by decide +kernel, by decide +kernel⟩
  have hfactory : generator.factory = factoryWith fun _ => tree := rfl
  have hlanguage : generator.registry.resolve source.extension = some .csharp := by decide +kernel
  have hread : source.read world.disk = .ok text := rfl
  have hready := Generator.generate_first hfactory hlanguage hread options
  refine ⟨horder, by decide +kernel, by cbv, _, _, hready, ?_⟩
  exact siblings_in_line_order (fun _ => tree) generator hfactory source
    (fun _ _ _ _ => horder) options rfl world _ _ hready

end SourceOutline
