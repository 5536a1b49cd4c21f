/-
The two sides of a region stay together all the way to the outline.

After splicing, the markers of every list of siblings close each other and are in
the order of their lines. `Paired` says this of one list, `Member.Balanced` of every
list inside a member. It survives what comes next for three reasons. Identities and
colors are no part of a bracket. Nesting takes containers away and puts them in, and
sorts by line, which moves no marker past another since the sort is stable. And a
container that is emitted between two markers brings whole regions only, so that it
can be skipped when the row is read.

In title order only members that are no markers are listed.
-/
import Mathlib
import SourceOutline.Proofs.Adoption
import SourceOutline.Proofs.Identity
import SourceOutline.Proofs.Splice

set_option autoImplicit false

namespace SourceOutline

open scoped List

/-! ## Lists of siblings -/

/-- Entries whose markers close each other and are in the order of their lines. -/
structure Paired (level : List Entry) : Prop where
  followed : Bracket.follow [] (brackets level) = some []
  ordered : MarksOrdered level

theorem brackets_filter_isMark (level : List Entry) :
    brackets (level.filter Entry.isMark) = brackets level := by
  rw [brackets, List.filterMap_filter, brackets]
  congr 1
  funext entry
  split
  · rfl
  · rename_i h
    exact (Entry.bracket?_of_not_isMark h).symm

/-- Only the markers count. -/
theorem Paired.of_filter_eq {first second : List Entry} (h : Paired first)
    (heq : second.filter Entry.isMark = first.filter Entry.isMark) : Paired second := by
  refine ⟨?_, ?_⟩
  · rw [← brackets_filter_isMark, heq, brackets_filter_isMark]
    exact h.followed
  · rw [MarksOrdered, heq]
    exact h.ordered

theorem Paired.of_unmarked {level : List Entry} (h : ∀ entry ∈ level, ¬entry.isMark = true) :
    Paired level := by
  refine ⟨by rw [brackets_eq_nil h]; rfl, ?_⟩
  rw [MarksOrdered, List.filter_eq_nil_iff.2 h]
  exact .nil

/-- Members that are no markers can join. -/
theorem Paired.append_unmarked {level others : List Entry} (h : Paired level)
    (hothers : ∀ entry ∈ others, ¬entry.isMark = true) : Paired (level ++ others) := by
  refine h.of_filter_eq ?_
  rw [List.filter_append, List.filter_eq_nil_iff.2 hothers, List.append_nil]

/-- The sort by line is stable, so it leaves the order of the markers alone. -/
theorem Paired.mergeSort {level : List Entry} (h : Paired level) :
    Paired (level.mergeSort fun a b => decide (a.startLine ≤ b.startLine)) := by
  refine h.of_filter_eq ?_
  have hsorted : (level.filter Entry.isMark).Pairwise
      (fun a b => decide (a.startLine ≤ b.startLine) = true) :=
    h.ordered.imp fun hle => decide_eq_true hle
  have hsub : level.filter Entry.isMark
      <+ level.mergeSort fun a b => decide (a.startLine ≤ b.startLine) := by
    refine List.sublist_mergeSort ?_ ?_ hsorted List.filter_sublist
    · intro a b c hab hbc
      exact decide_eq_true ((of_decide_eq_true hab).trans (of_decide_eq_true hbc))
    · intro a b
      rw [Bool.or_eq_true, decide_eq_true_iff, decide_eq_true_iff]
      exact Nat.le_total _ _
  have hfilter := hsub.filter Entry.isMark
  rw [List.filter_filter] at hfilter
  simp only [Bool.and_self] at hfilter
  -- Both sides have the same length, being permutations of each other.
  have hlength := ((List.mergeSort_perm level
    fun a b => decide (a.startLine ≤ b.startLine)).filter Entry.isMark).length_eq
  exact (hfilter.eq_of_length hlength.symm).symm

theorem Forest.map_entry_sortByLine (forest : Forest) :
    forest.sortByLine.map Member.entry
      = (forest.map Member.entry).mergeSort fun a b => decide (a.startLine ≤ b.startLine) :=
  List.map_mergeSort fun _ _ _ _ => rfl

/-- Containers are no markers. -/
theorem Member.not_isMark_of_isContainer {member : Member} (h : member.isContainer = true) :
    ¬member.entry.isMark = true := by
  intro hmark
  rw [Member.isContainer, eq_of_beq hmark] at h
  cases h

/-! ## Whole forests -/

/-- All lists of siblings inside a member are paired. -/
inductive Member.Balanced : Member → Prop where
  | node {entry : Entry} {children : Forest} (hlevel : Paired (children.map Member.entry))
      (hbelow : ∀ child ∈ children, child.Balanced) : Member.Balanced (.node entry children)

/-- All lists of siblings of a forest are paired. -/
structure Forest.Balanced (forest : Forest) : Prop where
  level : Paired (forest.map Member.entry)
  below : ∀ member ∈ forest, member.Balanced

theorem Member.Balanced.children {member : Member} (h : member.Balanced) :
    member.children.Balanced := by
  cases h with
  | node hlevel hbelow => exact ⟨hlevel, hbelow⟩

theorem Forest.Balanced.node {children : Forest} (h : children.Balanced) (entry : Entry) :
    (Member.node entry children).Balanced :=
  .node h.level h.below

theorem Forest.Balanced.nil : Forest.Balanced [] :=
  ⟨.of_unmarked (List.forall_mem_nil _), List.forall_mem_nil _⟩

theorem Member.balanced_of_children {member : Member} (h : member.children.Balanced) :
    member.Balanced := by
  cases member with
  | node entry children => exact h.node entry

theorem Forest.Balanced.sortByLine {forest : Forest} (h : forest.Balanced) :
    forest.sortByLine.Balanced := by
  refine ⟨?_, ?_⟩
  · rw [Forest.map_entry_sortByLine]
    exact h.level.mergeSort
  · intro member hmember
    exact h.below member (forest.sortByLine_perm.mem_iff.1 hmember)

/-! ## After splicing -/

mutual

/-- Where there are no markers there is nothing to pair. -/
theorem Member.balanced_of_unmarked : (member : Member) → member.Unmarked → member.Balanced
  | .node entry children, h => by
    refine Forest.Balanced.node (Forest.balanced_of_unmarked children ?_) entry
    intro below hbelow
    exact h below (by rw [Member.entries]; exact List.mem_cons_of_mem _ hbelow)

theorem Forest.balanced_of_unmarked :
    (forest : Forest) → (∀ entry ∈ forest.entries, ¬entry.isMark = true) → forest.Balanced
  | [], _ => .nil
  | member :: rest, h => by
    rw [Forest.entries] at h
    have hmember : member.Unmarked := fun entry hentry => h entry (List.mem_append_left _ hentry)
    have hrest := Forest.balanced_of_unmarked rest
      fun entry hentry => h entry (List.mem_append_right _ hentry)
    have hentry : ¬member.entry.isMark = true :=
      hmember _ (by rw [Member.entries_eq]; exact List.mem_cons_self)
    refine ⟨hrest.level.of_filter_eq ?_, ?_⟩
    · rw [List.map_cons, List.filter_cons_of_neg hentry]
    · exact List.forall_mem_cons.2 ⟨Member.balanced_of_unmarked member hmember, hrest.below⟩

end

/-- The entries of every level are entries of the forest. -/
theorem Forest.mem_entries_of_mem_siblings {forest : Forest} {level : Option Nat} {entry : Entry}
    (h : entry ∈ forest.siblings level) : entry ∈ forest.entries := by
  cases level with
  | none =>
    obtain ⟨member, hmember, rfl⟩ := List.mem_map.1 h
    exact Forest.mem_entries_of_mem hmember member.entry_mem_entries
  | some k =>
    obtain ⟨child, hchild, rfl⟩ := List.mem_map.1 h
    cases hhost : forest.hosts[k]? with
    | none =>
      rw [hhost] at hchild
      exact absurd hchild List.not_mem_nil
    | some host =>
      rw [hhost] at hchild
      have hmember : host ∈ forest := (List.mem_filter.1 (List.mem_of_getElem? hhost)).1
      refine Forest.mem_entries_of_mem hmember ?_
      rw [Member.entries_eq]
      exact List.mem_cons_of_mem _ (Forest.mem_entries_of_mem hchild child.entry_mem_entries)

/-- A forest without markers is where splicing starts. -/
theorem Splicing.of_unmarked {forest : Forest}
    (h : ∀ entry ∈ forest.entries, ¬entry.isMark = true) (line : Nat) :
    Splicing line [] forest := by
  have hlevel : ∀ level, ∀ entry ∈ forest.siblings level, ¬entry.isMark = true :=
    fun level entry hentry => h entry (Forest.mem_entries_of_mem_siblings hentry)
  refine ⟨?_, ?_, ?_, ?_, List.forall_mem_nil _, List.forall_mem_nil _⟩
  · intro member hmember
    refine .inr ⟨h _ (Forest.mem_entries_of_mem hmember member.entry_mem_entries), ?_⟩
    intro child hchild
    refine .inr fun entry hentry => h entry (Forest.mem_entries_of_mem hmember ?_)
    rw [Member.entries_eq]
    exact List.mem_cons_of_mem _ (Forest.mem_entries_of_mem hchild hentry)
  · intro level entry hentry
    exact hlevel level entry ((List.dropWhile_sublist _).subset hentry)
  · exact fun level => (Paired.of_unmarked (hlevel level)).ordered
  · exact fun level => (Paired.of_unmarked (hlevel level)).followed

theorem Member.IsMark.balanced {member : Member} (h : member.IsMark) : member.Balanced := by
  refine Member.balanced_of_children ?_
  rw [h.2]
  exact .nil

/-- Once no region is open, every level is paired. -/
theorem Splicing.balanced {line : Nat} {forest : Forest} (h : Splicing line [] forest) :
    forest.Balanced := by
  have hlevel : ∀ level, Paired (forest.siblings level) :=
    fun level => ⟨h.followed level, h.ordered level⟩
  refine ⟨hlevel none, ?_⟩
  intro member hmember
  rcases h.shallow member hmember with hmark | ⟨hhost, hchildren⟩
  · exact hmark.balanced
  · -- A member that is no marker is a host, and its children are a level.
    have hkind : member.entry.kind ≠ .region := fun hkind => hhost (beq_iff_eq.2 hkind)
    have hmem : member ∈ forest.hosts := List.mem_filter.2 ⟨hmember, bne_iff_ne.2 hkind⟩
    obtain ⟨k, hk⟩ := List.getElem?_of_mem hmem
    have hpaired := hlevel (some k)
    rw [Forest.siblings, hk] at hpaired
    refine Member.balanced_of_children ⟨hpaired, ?_⟩
    intro child hchild
    rcases hchildren child hchild with hmark | hunmarked
    · exact hmark.balanced
    · exact child.balanced_of_unmarked hunmarked

/-- **Splicing.** The markers of any text, put into a forest without markers, are
paired at every level. -/
theorem Forest.balanced_resolveRegions {forest : Forest}
    (h : ∀ entry ∈ forest.entries, ¬entry.isMark = true) (style : MarkerStyle) (source : String)
    (fromLine : Nat) (spans : List NamespaceSpan) :
    (forest.resolveRegions style source fromLine spans).Balanced := by
  obtain ⟨line, hspliced⟩ :=
    (Splicing.of_unmarked h fromLine).spliceWith spans (style.closes_scan source fromLine)
  exact hspliced.balanced

/-! ## Identities and colors -/

/-- Changes of an entry that its bracket and its line do not show. -/
def KeepsMarks (f : Entry → Entry) : Prop :=
  ∀ entry, (f entry).bracket? = entry.bracket? ∧ (f entry).startLine = entry.startLine

theorem Entry.isMark_eq (entry : Entry) : entry.isMark = entry.bracket?.isSome := by
  by_cases h : entry.isMark = true
  · rw [Entry.bracket?_of_isMark h, h]
    rfl
  · rw [Entry.bracket?_of_not_isMark h, Bool.eq_false_iff.2 h]
    rfl

theorem Paired.map_iff {f : Entry → Entry} (hf : KeepsMarks f) {level : List Entry} :
    Paired (level.map f) ↔ Paired level := by
  have hbrackets : brackets (level.map f) = brackets level := by
    rw [brackets, List.filterMap_map, brackets]
    congr 1
    funext entry
    exact (hf entry).1
  have hmarks : (level.map f).filter Entry.isMark = (level.filter Entry.isMark).map f := by
    rw [List.filter_map]
    congr 2
    funext entry
    rw [Function.comp_apply, Entry.isMark_eq, (hf entry).1, Entry.isMark_eq]
  have hordered : MarksOrdered (level.map f) ↔ MarksOrdered level := by
    rw [MarksOrdered, hmarks, List.pairwise_map, MarksOrdered]
    simp only [fun entry => (hf entry).2]
  constructor
  · intro h
    exact ⟨hbrackets ▸ h.followed, hordered.1 h.ordered⟩
  · intro h
    exact ⟨hbrackets.symm ▸ h.followed, hordered.2 h.ordered⟩

theorem Forest.map_entry_mapEntries (f : Entry → Entry) (forest : Forest) :
    (forest.mapEntries f).map Member.entry = (forest.map Member.entry).map f := by
  induction forest with
  | nil => rfl
  | cons member rest ih =>
    rw [Forest.mapEntries, List.map_cons, ih]
    cases member
    rfl

mutual

theorem Member.balanced_mapEntries_iff {f : Entry → Entry} (hf : KeepsMarks f) :
    (member : Member) → ((member.mapEntries f).Balanced ↔ member.Balanced)
  | .node entry children => by
    have hlevel : Paired ((Forest.mapEntries f children).map Member.entry)
        ↔ Paired (children.map Member.entry) := by
      rw [Forest.map_entry_mapEntries, Paired.map_iff hf]
    have hbelow := Forest.below_mapEntries_iff hf children
    rw [Member.mapEntries]
    constructor
    · intro h
      exact .node (hlevel.1 h.children.level) (hbelow.1 h.children.below)
    · intro h
      exact .node (hlevel.2 h.children.level) (hbelow.2 h.children.below)

theorem Forest.below_mapEntries_iff {f : Entry → Entry} (hf : KeepsMarks f) :
    (forest : Forest) →
      ((∀ member ∈ forest.mapEntries f, member.Balanced) ↔ ∀ member ∈ forest, member.Balanced)
  | [] => Iff.rfl
  | member :: rest => by
    rw [Forest.mapEntries, List.forall_mem_cons, List.forall_mem_cons,
      Member.balanced_mapEntries_iff hf member, Forest.below_mapEntries_iff hf rest]

end

theorem Forest.balanced_mapEntries_iff {f : Entry → Entry} (hf : KeepsMarks f) (forest : Forest) :
    (forest.mapEntries f).Balanced ↔ forest.Balanced := by
  have hlevel : Paired ((forest.mapEntries f).map Member.entry)
      ↔ Paired (forest.map Member.entry) := by
    rw [Forest.map_entry_mapEntries, Paired.map_iff hf]
  have hbelow := Forest.below_mapEntries_iff hf forest
  exact ⟨fun h => ⟨hlevel.1 h.level, hbelow.1 h.below⟩,
    fun h => ⟨hlevel.2 h.level, hbelow.2 h.below⟩⟩

/-- The walk that assigns identities changes nothing else. -/
theorem Forest.Balanced.assignIds {forest : Forest} (h : forest.Balanced)
    (tokens : Nat → String) : (forest.assignIds tokens).Balanced := by
  have hf : KeepsMarks fun entry => { entry with id := "" } := fun _ => ⟨rfl, rfl⟩
  -- With all identities blanked the two forests are the same.
  have hwalk : (forest.assignIds tokens).mapEntries (fun entry => { entry with id := "" })
      = forest.mapEntries fun entry => { entry with id := "" } :=
    Forest.mapEntries_assignIdsFrom (fun _ _ => rfl) tokens [] forest
  rw [← Forest.balanced_mapEntries_iff hf, hwalk, Forest.balanced_mapEntries_iff hf]
  exact h

theorem Forest.Balanced.joinColors {forest : Forest} (h : forest.Balanced)
    (bookmarks : Bookmarks) (key : Option String) :
    (forest.joinColors bookmarks key).Balanced := by
  cases key with
  | none => exact h
  | some key =>
    have hf : KeepsMarks fun entry =>
        { entry with colorTag := bookmarks.color? key entry.id } := fun _ => ⟨rfl, rfl⟩
    exact (Forest.balanced_mapEntries_iff hf forest).2 h

/-! ## Nesting -/

/-- Containers that wait for their owner. -/
def Forest.Waiting (pool : Forest) : Prop :=
  ∀ member ∈ pool, member.Balanced ∧ member.isContainer = true

theorem Forest.Waiting.not_isMark {pool : Forest} (h : pool.Waiting) :
    ∀ entry ∈ pool.map Member.entry, ¬entry.isMark = true := by
  intro entry hentry
  obtain ⟨member, hmember, rfl⟩ := List.mem_map.1 hentry
  exact Member.not_isMark_of_isContainer (h member hmember).2

/-- Containers that join a forest, which is then sorted, disturb no region. -/
theorem Forest.Balanced.join {forest others : Forest} (h : forest.Balanced)
    (hothers : others.Waiting) : (Forest.sortByLine (forest ++ others)).Balanced := by
  refine Forest.Balanced.sortByLine ⟨?_, ?_⟩
  · rw [List.map_append]
    exact h.level.append_unmarked hothers.not_isMark
  · intro member hmember
    rcases List.mem_append.1 hmember with hold | hnew
    · exact h.below member hold
    · exact (hothers member hnew).1

theorem Member.keepsJoining_balanced : KeepsJoining Member.Balanced := by
  intro parent others hparent _ hothers
  have hwaiting : Forest.Waiting others := fun other hother =>
    ⟨(hothers other hother).1, (hothers other hother).2.1⟩
  exact (hparent.children.join hwaiting).node parent.entry

/-- **Nesting** separates no region. The containers that are moved away from a level
are no markers. -/
theorem Forest.Balanced.nest {forest : Forest} (h : forest.Balanced) : forest.nest.Balanced := by
  obtain ⟨roots, hnest, hentries, hbelow⟩ :=
    Forest.nest_keeping Member.keepsJoining_balanced h.below
  rw [hnest]
  refine Forest.Balanced.sortByLine ⟨?_, hbelow⟩
  -- No marker is in the pool, so the roots have all the markers of the level.
  rw [hentries]
  refine h.level.of_filter_eq ?_
  rw [Forest.outermost, List.filter_map, List.filter_map, List.filter_filter]
  congr 1
  refine List.filter_congr fun member _ => ?_
  simp only [Function.comp_apply]
  cases hcontainer : member.isContainer with
  | true =>
    have hmark := Member.not_isMark_of_isContainer hcontainer
    rw [Bool.eq_false_iff.2 hmark, Bool.false_and]
  | false => simp [Forest.waits, hcontainer]

/-! ## Emission in the order of lines -/

theorem arrange_unsorted {options : Options} (h : options.sortMembers = false)
    (blocks : List Block) : arrange options blocks = blocks.flatMap Block.rows := by
  rw [arrange, if_neg (by rw [h]; decide)]

/-- A level that shows its markers shows all of them. -/
theorem brackets_leafRows (options : Options) (loose : Bool) (entry : Entry) :
    brackets (leafRows options loose entry) = if loose then brackets [entry] else [] := by
  rw [leafRows]
  cases loose with
  | false => rfl
  | true =>
    rw [Bool.true_and, if_pos rfl]
    split
    · rfl
    · rename_i hhidden
      refine (brackets_eq_nil ?_).symm
      intro other hother hmark
      rw [List.mem_singleton.1 hother] at hmark
      exact hhidden (Bool.or_eq_true_iff.2 (.inl hmark))

mutual

/-- What a container shows can be read without touching the stack. -/
theorem Member.follow_rows {options : Options} (hsort : options.sortMembers = false)
    (filter : Option String) :
    (member : Member) → member.Balanced → member.isContainer = true →
      Bracket.follow [] (brackets (member.rows options filter)) = some []
  | .node entry children, h, hcontainer => by
    rw [Member.rows]
    split
    · rename_i own hown
      have hentry : entry.bracket? = none :=
        Entry.bracket?_of_not_isMark (Member.not_isMark_of_isContainer hcontainer)
      rw [brackets, List.filterMap_cons_none hentry, ← brackets, arrange_unsorted hsort,
        Forest.follow_blocks hsort filter own children h.children.below []]
      cases own with
      | true => exact h.children.level.followed
      | false => rfl
    · rfl

/-- What a level shows is read like its own markers, or like nothing if these are not
shown: the containers between them come with whole regions. -/
theorem Forest.follow_blocks {options : Options} (hsort : options.sortMembers = false)
    (filter : Option String) (loose : Bool) :
    (forest : Forest) → (∀ member ∈ forest, member.Balanced) → (stack : List Bracket) →
      Bracket.follow stack (brackets ((forest.blocks options filter loose).flatMap Block.rows))
        = Bracket.follow stack (if loose then brackets (forest.map Member.entry) else [])
  | [], _, stack => by
    cases loose <;> rfl
  | member :: rest, h, stack => by
    obtain ⟨hmember, hbelow⟩ := List.forall_mem_cons.1 h
    have hrest := Forest.follow_blocks hsort filter loose rest hbelow
    have hlevel : brackets ((member :: rest).map Member.entry)
        = brackets [member.entry] ++ brackets (rest.map Member.entry) := by
      rw [← brackets_append]
      rfl
    rw [Forest.blocks, List.flatMap_cons, brackets_append, Bracket.follow_append, hlevel]
    dsimp only
    split
    · rename_i hcontainer
      -- The frame lets the rows of the container be read on any stack.
      have hrows := Bracket.follow_frame
        (Member.follow_rows hsort filter member hmember hcontainer) stack
      have hentry : brackets [member.entry] = [] := by
        rw [brackets, List.filterMap_cons_none
          (Entry.bracket?_of_not_isMark (Member.not_isMark_of_isContainer hcontainer))]
        rfl
      rw [List.nil_append] at hrows
      rw [hrows, Option.bind_some, hrest, hentry, List.nil_append]
    · rw [brackets_leafRows]
      cases loose with
      | true =>
        simp only [if_true] at hrest ⊢
        rw [Bracket.follow_append]
        simp only [hrest]
      | false =>
        simp only [Bool.false_eq_true, if_false] at hrest ⊢
        rw [Bracket.follow_nil, Option.bind_some, hrest, Bracket.follow_nil]

end

/-! ## Emission in the order of titles -/

/-- The blocks that are listed by title are no markers. -/
theorem of_mem_sortLevel {block : Block} {blocks : List Block} (h : block ∈ sortLevel blocks) :
    block ∈ blocks ∧ ¬block.entry.isMark = true := by
  obtain ⟨hblock, hkind⟩ := List.mem_filter.1 ((sortLevel_perm blocks).mem_iff.1 h)
  refine ⟨hblock, fun hmark => ?_⟩
  rw [eq_of_beq hmark] at hkind
  cases hkind

/-- If the blocks that are no markers bring none along, a level in title order has
none. -/
theorem not_isMark_of_mem_arrange {options : Options} (h : options.sortMembers = true)
    {blocks : List Block}
    (hblocks : ∀ block ∈ blocks, ¬block.entry.isMark = true →
      ∀ row ∈ block.rows, ¬row.isMark = true) :
    ∀ row ∈ arrange options blocks, ¬row.isMark = true := by
  intro row hrow
  rw [arrange, if_pos h] at hrow
  obtain ⟨block, hblock, hrow⟩ := List.mem_flatMap.1 hrow
  obtain ⟨hmem, hmark⟩ := of_mem_sortLevel hblock
  exact hblocks block hmem hmark row hrow

mutual

theorem Member.not_isMark_of_mem_rows {options : Options} (hsort : options.sortMembers = true)
    (filter : Option String) :
    (member : Member) → ¬member.entry.isMark = true →
      ∀ row ∈ member.rows options filter, ¬row.isMark = true
  | .node entry children, hentry => by
    rw [Member.rows]
    split
    · exact List.forall_mem_cons.2 ⟨hentry, not_isMark_of_mem_arrange hsort
        (Forest.not_isMark_of_mem_blocks hsort filter _ children)⟩
    · exact List.forall_mem_nil _

theorem Forest.not_isMark_of_mem_blocks {options : Options} (hsort : options.sortMembers = true)
    (filter : Option String) (loose : Bool) :
    (forest : Forest) → ∀ block ∈ forest.blocks options filter loose,
      ¬block.entry.isMark = true → ∀ row ∈ block.rows, ¬row.isMark = true
  | [] => List.forall_mem_nil _
  | member :: rest => by
    rw [Forest.blocks]
    refine List.forall_mem_cons.2 ⟨?_, Forest.not_isMark_of_mem_blocks hsort filter loose rest⟩
    intro hmark row hrow
    dsimp only at hmark hrow
    split at hrow
    · exact Member.not_isMark_of_mem_rows hsort filter member hmark row hrow
    · rw [leafRows] at hrow
      split at hrow
      · rw [List.mem_singleton.1 hrow]
        exact hmark
      · exact absurd hrow List.not_mem_nil

end

/-! ## The regions of an outline -/

/-- The regions of an outline are properly nested. -/
structure RegionsNested (items : List Item) : Prop where
  /-- Every marker opens or closes a region. -/
  sided : ∀ item ∈ items, item.kind = .region → item.boundary?.isSome = true
  nested : Nested (items.filterMap Item.boundary?)
  /-- Each opening row is matched with exactly one closing row behind it, and the two
  agree on the name of the region, its depth and where it is declared. -/
  matched : ∀ (i : Nat) (opening : Item), items[i]? = some opening →
    opening.boundary? = some .start →
    ∃ (j : Nat) (closing : Item), items[j]? = some closing
      ∧ Matched (items.map Item.boundary?) i j
      ∧ (∀ k, Matched (items.map Item.boundary?) i k → k = j)
      ∧ ∃ name depth, opening.region = some ⟨.start, name, depth⟩
        ∧ closing.region = some ⟨.stop, name, depth⟩
        ∧ opening.name = closing.name ∧ opening.parentPath = closing.parentPath

/-- What partners have in common. -/
theorem Entry.agree_of_partner {opening closing : Entry} {bracket : Bracket}
    (hopening : opening.bracket? = some bracket) (hopen : bracket.boundary? = some .start)
    (hclosing : closing.bracket? = some bracket.partner) :
    ∃ name depth, opening.region = some ⟨.start, name, depth⟩
      ∧ closing.region = some ⟨.stop, name, depth⟩
      ∧ opening.name = closing.name ∧ opening.parent = closing.parent := by
  obtain ⟨-, rfl⟩ := Entry.bracket?_eq_some_iff.1 hopening
  obtain ⟨-, hpartner⟩ := Entry.bracket?_eq_some_iff.1 hclosing
  obtain ⟨⟨side, name, depth⟩, hregion, hside⟩ := Option.map_eq_some_iff.1 hopen
  dsimp only at hregion hside
  subst hside
  simp only [Bracket.partner, hregion, Bracket.mk.injEq] at hpartner
  exact ⟨name, depth, hregion, hpartner.1.symm, hpartner.2⟩

/-- Rows that can be read from the empty stack to the empty stack make an outline with
nested regions. -/
theorem RegionsNested.of_follow {rows : List Entry}
    (h : Bracket.follow [] (brackets rows) = some []) : RegionsNested (rows.map Entry.item) := by
  refine ⟨?_, ?_, ?_⟩
  · intro item hitem hkind
    obtain ⟨entry, hentry, rfl⟩ := List.mem_map.1 hitem
    have hbracket : entry.bracket? = some ⟨entry.region, entry.name, entry.parent⟩ :=
      Entry.bracket?_eq_some_iff.2 ⟨hkind, rfl⟩
    rw [Entry.boundary?_item, hbracket]
    exact Bracket.isSome_boundary?_of_follow h (List.forall_mem_nil _) _
      (List.mem_filterMap.2 ⟨entry, hentry, hbracket⟩)
  · rw [filterMap_boundary?_item]
    exact nested_of_follow _ h
  · intro i opening hi hstart
    rw [List.getElem?_map] at hi
    obtain ⟨entry, hentry, rfl⟩ := Option.map_eq_some_iff.1 hi
    rw [Entry.boundary?_item] at hstart
    obtain ⟨bracket, hbracket, hopen⟩ := Option.bind_eq_some_iff.1 hstart
    obtain ⟨j, closing, hj, hclosing, hmatched, hunique⟩ :=
      exists_unique_match h hentry hbracket hopen
    obtain ⟨name, depth, hopening, hstop, hname, hparent⟩ :=
      Entry.agree_of_partner hbracket hopen hclosing
    refine ⟨j, closing.item, by rw [List.getElem?_map, hj]; rfl, hmatched, hunique, name, depth,
      hopening, hstop, hname, ?_⟩
    exact congrArg Ancestry.render hparent

/-- The regions of a balanced forest are nested once it is emitted by line. -/
theorem Forest.Balanced.emit {forest : Forest} (h : forest.Balanced) {options : Options}
    (hsort : options.sortMembers = false) (encodesContainment : Bool) :
    RegionsNested (forest.emit options encodesContainment) := by
  rw [Forest.emit]
  generalize (if encodesContainment then options.classFilter else none) = filter
  generalize (options.containers.others && filter.isNone) = loose
  refine RegionsNested.of_follow ?_
  rw [arrange_unsorted hsort, Forest.follow_blocks hsort filter loose forest h.below []]
  cases loose with
  | true => exact h.level.followed
  | false => rfl

/-- In title order an outline has no marker at all. -/
theorem Forest.kind_ne_region_of_mem_emit (forest : Forest) {options : Options}
    (hsort : options.sortMembers = true) (encodesContainment : Bool) :
    ∀ item ∈ forest.emit options encodesContainment, item.kind ≠ .region := by
  intro item hitem hkind
  rw [Forest.emit] at hitem
  obtain ⟨row, hrow, rfl⟩ := List.mem_map.1 hitem
  exact not_isMark_of_mem_arrange hsort (Forest.not_isMark_of_mem_blocks hsort _ _ forest) row hrow
    (beq_iff_eq.2 hkind)

/-- The forest of a mapping without markers of its own is balanced, whatever the text. -/
theorem Mapping.balanced_identified {mapping : Mapping}
    (h : ∀ entry ∈ mapping.members.entries, entry.kind ≠ .region) (style : MarkerStyle)
    (source : String) (tokens : Nat → String) :
    (mapping.identified style source tokens).Balanced := by
  have hsorted : ∀ entry ∈ mapping.members.sortByLine.entries, ¬entry.isMark = true := by
    intro entry hentry hmark
    exact h entry (mapping.members.entries_sortByLine.mem_iff.1 hentry) (eq_of_beq hmark)
  rw [Mapping.identified]
  refine Forest.Balanced.assignIds ?_ tokens
  split
  · exact Forest.balanced_resolveRegions hsorted style source _ _
  · exact Forest.balanced_of_unmarked _ hsorted

/-- What an outline shows of the regions, by line and by title. -/
def RegionsShown (options : Options) (items : List Item) : Prop :=
  (options.sortMembers = false → RegionsNested items)
    ∧ (options.sortMembers = true → ∀ item ∈ items, item.kind ≠ .region)

theorem Forest.Balanced.regionsShown {forest : Forest} (h : forest.Balanced) (options : Options)
    (encodesContainment : Bool) :
    RegionsShown options (forest.nest.emit options encodesContainment) :=
  ⟨fun hsort => h.nest.emit hsort encodesContainment,
    fun hsort => forest.nest.kind_ne_region_of_mem_emit hsort encodesContainment⟩

/-- **Regions come out nested**, for every mapping without markers of its own, every
way to write markers and every text. In the order of lines the markers are a
properly nested sequence, and each opening one has exactly one match, of the same
name, depth and place; in the order of titles there are none. The first part is
about the stages themselves, the second about the outlines of a generator. -/
theorem regions_nested :
    (∀ (mapping : Mapping), (∀ entry ∈ mapping.members.entries, entry.kind ≠ .region) →
      ∀ (style : MarkerStyle) (text : String) (tokens : Nat → String) (bookmarks : Bookmarks)
        (key : Option String) (options : Options) (encodesContainment : Bool),
      RegionsShown options
        (((mapping.identified style text tokens).joinColors bookmarks key).nest.emit options
          encodesContainment))
    ∧ ∀ {σ : Type} (generator : Generator σ),
      (∀ language text mapOptions memory mapper mapping memory',
        generator.callMapper language text mapOptions memory = (.ok (mapper, mapping), memory') →
        ∀ entry ∈ mapping.members.entries, entry.kind ≠ .region) →
      ∀ (source : Source) (options : Options) (world after : World σ) (outline : Outline),
      generator.generate source options world = (.ready outline, after) →
      RegionsShown options outline.items := by
  constructor
  · intro mapping hmapping style text tokens bookmarks key options encodesContainment
    have hforest := Mapping.balanced_identified hmapping style text tokens
    exact (hforest.joinColors bookmarks key).regionsShown options encodesContainment
  · intro σ generator hmappers source options world after outline hready
    obtain ⟨run, rfl, -⟩ := Generator.generate_ready hready
    have hforest : run.forest.Balanced :=
      Mapping.balanced_identified (hmappers _ _ _ _ _ _ _ run.mapped) _ _ _
    exact (hforest.joinColors _ _).regionsShown options run.mapper.encodesContainment

/-- A class with a field. -/
def straddledClass : Forest := [
  .node { kind := .classType, name := "A", startLine := 0, endLine := some 3 } [
    .leaf { kind := .field, name := "x", startLine := 3, parent := { types := ["A"] } }]]

/-- A region that is opened in the class and closed behind it, with a region in it, a stray
closing marker and a region that is never closed. -/
def straddlingText : String :=
  "class A:\n# region R\n# region Q\n x = 1\n# endregion\n# endregion\n# endregion\n# region S"

/-- The markers are in the places of the regions, the stray one aside. -/
theorem identified_straddledClass :
    let marker (id : String) (marker : Marker) (line : Nat) (parent : Ancestry) : Member :=
      .leaf { id := id, kind := .region, name := marker.name, startLine := line,
              endLine := some line, parent := parent, region := some marker }
    (Mapping.wholeFile straddledClass).identified .hashComment straddlingText (fun _ => "token")
      = [.node { id := "A", kind := .classType, name := "A", startLine := 0, endLine := some 3 } [
          marker "A.#region R" ⟨.start, "R", 0⟩ 1 { types := ["A"] },
          marker "A.#region Q" ⟨.start, "Q", 1⟩ 2 { types := ["A"] },
          .leaf { id := "A.x", kind := .field, name := "x", startLine := 3,
                  parent := { types := ["A"] } },
          marker "A.#endregion Q" ⟨.stop, "Q", 1⟩ 4 { types := ["A"] },
          marker "A.#endregion R" ⟨.stop, "R", 0⟩ 5 { types := ["A"] }],
        marker "#region S" ⟨.start, "S", 0⟩ 7 .root,
        marker "#endregion S" ⟨.stop, "S", 0⟩ 7 .root] := by
  have hordered : straddledClass.sortByLine = straddledClass := by cbv
  have hscan : MarkerStyle.hashComment.scan straddlingText 0 = [
      .ofMarker ⟨.start, "R", 0⟩ 1 0, .ofMarker ⟨.start, "Q", 1⟩ 2 0, .ofMarker ⟨.stop, "Q", 1⟩ 4 0,
      .ofMarker ⟨.stop, "R", 0⟩ 5 0, .ofMarker ⟨.start, "S", 0⟩ 7 0,
      .ofMarker ⟨.stop, "S", 0⟩ 7 0] := by
    rfl
  rw [Mapping.identified, Mapping.wholeFile, hordered]
  dsimp only
  rw [Forest.resolveRegions, hscan]
  rfl

/-- In the order of lines there is a row for every marker but the stray one, and one for the
side that is missing. In the order of titles there is none. -/
theorem regions_nested_of_straddling_markers :
    let mapping := Mapping.wholeFile straddledClass
    let byLine : Options := { sortMembers := false }
    let items (options : Options) : List Item :=
      ((mapping.identified .hashComment straddlingText fun _ => "token").joinColors
        .empty none).nest.emit options true
    let row (item : Item) : String × Option Marker × String :=
      (item.name, item.region, item.parentPath)
    let rows : List (String × Option Marker × String) := [
      ("A", none, ""), ("R", some ⟨.start, "R", 0⟩, "A"), ("Q", some ⟨.start, "Q", 1⟩, "A"),
      ("x", none, "A"), ("Q", some ⟨.stop, "Q", 1⟩, "A"), ("R", some ⟨.stop, "R", 0⟩, "A"),
      ("S", some ⟨.start, "S", 0⟩, ""), ("S", some ⟨.stop, "S", 0⟩, "")]
    let world : World Unit := ⟨{ home := "/" }, .inMemory, ()⟩
    (∀ entry ∈ mapping.members.entries, entry.kind ≠ .region)
    ∧ (items byLine).map row = rows
    ∧ RegionsNested (items byLine)
    ∧ (items {}).map row = [("A", none, ""), ("x", none, "A")]
    ∧ (∀ item ∈ items {}, item.kind ≠ .region)
    ∧ ∃ outline after,
      (Generator.ofMembers straddledClass).generate (.text straddlingText "py" none) byLine world
        = (.ready outline, after)
      ∧ outline.items.map row = rows
      ∧ RegionsNested outline.items := by
  intro mapping byLine items row rows world
  have hmembers : ∀ entry ∈ mapping.members.entries, entry.kind ≠ .region := by decide +kernel
  have hrows : (items byLine).map row = rows := by
    dsimp only [items]
    rw [identified_straddledClass]
    cbv
  have hsorted : (items {}).map row = [("A", none, ""), ("x", none, "A")] := by
    dsimp only [items]
    rw [identified_straddledClass]
    cbv
  have hstages (options : Options) : RegionsShown options (items options) :=
    regions_nested.1 mapping hmembers _ _ _ _ _ _ _
  have hready := Generator.generate_ofMembers straddledClass straddlingText none byLine world
  have hshown := regions_nested.2 (Generator.ofMembers straddledClass) (by
    intro language text mapOptions memory mapper mapping memory' hmap
    cases hmap
    exact hmembers) _ _ _ _ _ hready
  have hitems : (Completion.ofMembers straddledClass straddlingText none byLine world).outline.items
      = items byLine := rfl
  exact ⟨hmembers, hrows, (hstages byLine).1 rfl, hsorted, (hstages {}).2 rfl, _, _, hready,
    (congrArg (List.map row) hitems).trans hrows, hshown.1 rfl⟩

end SourceOutline
