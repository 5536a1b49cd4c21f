/-
Toggles and the member filter take rows away, and do nothing else.

Both are asked for each leaf, in the middle of the recursion and before a level is sorted.
Seen from outside they could as well be asked of the finished list: what an outline lists
under some toggles and a filter is what it lists with all of them open, less the rows that
they refuse (`toggles_filter_outline`).

Two settings are compared through `Options.Narrows`: they differ in which leaves they show,
and for each leaf the narrower one asks one question more. A block has its entry whether it
is shown or not, and a level is sorted by entries. So the blocks of the two settings differ
in their rows alone, and the same sort is done for both (`arrange_strained`).
-/
import SourceOutline.Outline.Emission
import SourceOutline.Proofs.Substrings

set_option autoImplicit false

namespace SourceOutline

/-! ## Categories -/

/-- The members that have toggles of their own. -/
inductive Category where
  /-- Methods and constructors. -/
  | methods
  | properties
  | fields
deriving DecidableEq, Repr

/-- The category of a kind. Containers and markers have none. -/
def Kind.category? : Kind → Option Category
  | .constructor | .method => some .methods
  | .property => some .properties
  | .field => some .fields
  | _ => none

namespace Options

/-- The toggles of a category. -/
def visibility (options : Options) : Category → Visibility
  | .methods => options.methods
  | .properties => options.properties
  | .fields => options.fields

/-- The options with other toggles for a category. -/
def withVisibility (options : Options) (category : Category) (visibility : Visibility) :
    Options :=
  match category with
  | .methods => { options with methods := visibility }
  | .properties => { options with properties := visibility }
  | .fields => { options with fields := visibility }

/-- The options with all toggles of members on and no member filter. -/
def allMembers (options : Options) : Options :=
  { options with methods := {}, properties := {}, fields := {}, memberNameFilter := none }

/-- The options with one toggle off: that of a category and a visibility. -/
def switchOff (options : Options) (category : Category) (isPublic : Bool) : Options :=
  let before := options.visibility category
  options.withVisibility category
    (if isPublic then { before with publicShown := false } else { before with privateShown := false })

/-- An item passes the toggles of its category, and its name the member filter. -/
def Admits (options : Options) (item : Item) : Prop :=
  (∃ category ∈ item.kind.category?, (options.visibility category).allows item.isPublic = true)
    ∧ ∀ filter ∈ options.memberFilter, Text.Holds item.name filter

/-- An item of a category and a visibility. -/
def Concerns (category : Category) (isPublic : Bool) (item : Item) : Prop :=
  item.kind.category? = some category ∧ item.isPublic = isPublic

instance (options : Options) (item : Item) : Decidable (options.Admits item) :=
  inferInstanceAs (Decidable (_ ∧ _))

instance (category : Category) (isPublic : Bool) (item : Item) :
    Decidable (Concerns category isPublic item) :=
  inferInstanceAs (Decidable (_ ∧ _))

theorem showsLeaf_iff {options : Options} {entry : Entry} :
    options.showsLeaf entry = true ↔ options.Admits entry.item := by
  rw [showsLeaf, Admits]
  have hkind : entry.item.kind = entry.kind := rfl
  rw [hkind]
  cases entry.kind <;>
    simp [Kind.category?, visibility, matchesFilter_iff] <;> rfl

end Options

/-! ## Rows that are refused -/

/-- A block without the rows that are refused. -/
def Block.strain (admits : Item → Bool) (block : Block) : Block :=
  { block with rows := block.rows.filter fun row => admits row.item }

theorem sortBlocks_strain (admits : Item → Bool) (blocks : List Block) :
    sortBlocks (blocks.map (Block.strain admits)) = (sortBlocks blocks).map (Block.strain admits) := by
  unfold sortBlocks
  rw [List.map_mergeSort]
  intro first _ second _
  rfl

/-- What picks blocks by their entries picks the same blocks. -/
theorem filter_strain (admits : Item → Bool) (p : Entry → Bool) (blocks : List Block) :
    (blocks.map (Block.strain admits)).filter (fun block => p block.entry)
      = (blocks.filter fun block => p block.entry).map (Block.strain admits) := by
  rw [List.filter_map]
  rfl

theorem sortLevel_strain (admits : Item → Bool) (blocks : List Block) :
    sortLevel (blocks.map (Block.strain admits)) = (sortLevel blocks).map (Block.strain admits) := by
  have hkind : ∀ kind, sortedOfKind kind (blocks.map (Block.strain admits))
      = (sortedOfKind kind blocks).map (Block.strain admits) := by
    intro kind
    rw [sortedOfKind, filter_strain admits fun entry => entry.kind == kind, sortBlocks_strain]
    rfl
  have hcontainers := filter_strain admits (fun entry => entry.kind.isContainer) blocks
  unfold sortLevel
  rw [hkind, hkind, hkind, hkind, hcontainers, sortBlocks_strain]
  simp only [List.map_append]

/-- **A level** can be put in order before or after rows are taken away. -/
theorem arrange_strain (options : Options) (admits : Item → Bool) (blocks : List Block) :
    arrange options (blocks.map (Block.strain admits))
      = (arrange options blocks).filter fun row => admits row.item := by
  have hrows : ∀ blocks : List Block, (blocks.map (Block.strain admits)).flatMap Block.rows
      = (blocks.flatMap Block.rows).filter fun row => admits row.item := by
    intro blocks
    rw [List.filter_flatMap, List.flatMap_map]
    rfl
  unfold arrange
  split
  · rw [sortLevel_strain, hrows]
  · rw [hrows]

/-! ## Two settings -/

/-- Options that show fewer leaves than others: those that are admitted as well. -/
structure Options.Narrows (narrow wide : Options) (admits : Item → Bool) : Prop where
  sortMembers : narrow.sortMembers = wide.sortMembers
  containers : narrow.containers = wide.containers
  leaf : ∀ entry, narrow.showsLeaf entry = (wide.showsLeaf entry && admits entry.item)
  container : ∀ item : Item, item.kind.isContainer = true → admits item = true
  region : ∀ item : Item, item.kind = .region → admits item = true

namespace Options.Narrows

variable {narrow wide : Options} {admits : Item → Bool}

theorem showsContainer (h : narrow.Narrows wide admits) (kind : Kind) :
    narrow.showsContainer kind = wide.showsContainer kind := by
  unfold Options.showsContainer
  rw [h.containers]

theorem arrange (h : narrow.Narrows wide admits) (blocks : List Block) :
    arrange narrow blocks = arrange wide blocks := by
  rw [SourceOutline.arrange, h.sortMembers, SourceOutline.arrange]

theorem leafRows (h : narrow.Narrows wide admits) (loose : Bool) (entry : Entry) :
    leafRows narrow loose entry
      = (leafRows wide loose entry).filter fun row => admits row.item := by
  rw [SourceOutline.leafRows, SourceOutline.leafRows, h.leaf]
  by_cases hregion : entry.kind = .region
  · -- A marker is not asked what a leaf is, and the narrower setting admits it.
    have hkind : (entry.kind == .region) = true := beq_iff_eq.2 hregion
    have hadmits : admits entry.item = true := h.region entry.item hregion
    rw [hkind, Bool.true_or, Bool.true_or]
    split
    · rw [List.filter_cons, if_pos hadmits, List.filter_nil]
    · rfl
  · have hkind : (entry.kind == .region) = false := beq_eq_false_iff_ne.2 hregion
    rw [hkind, Bool.false_or, Bool.false_or, ← Bool.and_assoc]
    cases loose && wide.showsLeaf entry with
    | false => rfl
    | true => rw [Bool.true_and, if_pos rfl, List.filter_cons, List.filter_nil]

mutual

theorem member_holdsMatch (h : narrow.Narrows wide admits) (filter : String) :
    (member : Member) → member.holdsMatch narrow filter = member.holdsMatch wide filter
  | .node _ children => by
    unfold Member.holdsMatch
    exact forest_holdsMatch h filter children

theorem forest_holdsMatch (h : narrow.Narrows wide admits) (filter : String) :
    (forest : Forest) → forest.holdsMatch narrow filter = forest.holdsMatch wide filter
  | [] => rfl
  | member :: rest => by
    unfold Forest.holdsMatch
    rw [h.showsContainer, member_holdsMatch h filter member, forest_holdsMatch h filter rest]

end

theorem ownMembers? (h : narrow.Narrows wide admits) (filter : Option String) (member : Member) :
    ownMembers? narrow filter member = ownMembers? wide filter member := by
  unfold SourceOutline.ownMembers?
  simp only [h.showsContainer, h.member_holdsMatch]

mutual

/-- **A container** shows what it shows in the wider setting, less what is refused. -/
theorem rows (h : narrow.Narrows wide admits) (filter : Option String) :
    (member : Member) → member.isContainer = true →
      member.rows narrow filter = (member.rows wide filter).filter fun row => admits row.item
  | .node entry children, hcontainer => by
    rw [Member.rows, h.ownMembers?, Member.rows]
    cases SourceOutline.ownMembers? wide filter (.node entry children) with
    | none => rfl
    | some own =>
      have hadmits : admits entry.item = true := h.container entry.item hcontainer
      dsimp only
      rw [List.filter_cons, if_pos hadmits, blocks h filter own children, h.arrange,
        arrange_strain]

/-- **The blocks of a level**, whose entries do not depend on what is shown. -/
theorem blocks (h : narrow.Narrows wide admits) (filter : Option String) (loose : Bool) :
    (forest : Forest) → forest.blocks narrow filter loose
      = (forest.blocks wide filter loose).map (Block.strain admits)
  | [] => rfl
  | member :: rest => by
    rw [Forest.blocks, Forest.blocks, List.map_cons, blocks h filter loose rest]
    congr 1
    unfold Block.strain
    dsimp only
    congr 1
    split
    · rename_i hcontainer
      exact rows h filter member hcontainer
    · exact h.leafRows loose member.entry

end

/-- **The narrower outline** is the part of the wider one that is admitted, if the two look at
the same filter on containers or at none. -/
theorem emit (h : narrow.Narrows wide admits) {encodesContainment : Bool}
    (hclass : encodesContainment = true → narrow.classFilter = wide.classFilter)
    (forest : Forest) :
    forest.emit narrow encodesContainment
      = (forest.emit wide encodesContainment).filter admits := by
  have hfilter : (if encodesContainment then narrow.classFilter else none)
      = if encodesContainment then wide.classFilter else none := by
    split
    · rename_i hencodes
      exact hclass hencodes
    · rfl
  have hitem : admits ∘ Entry.item = fun row => admits row.item := rfl
  unfold Forest.emit
  dsimp only
  rw [h.containers, hfilter, h.blocks, h.arrange, arrange_strain, List.filter_map, hitem]

end Options.Narrows

/-! ## Toggles -/

/-- With all toggles on there is nothing left to ask but whether an item is of a category. -/
theorem Options.admits_allMembers_iff {options : Options} {item : Item} :
    options.allMembers.Admits item ↔ item.kind.category?.isSome = true := by
  have hfilter : options.allMembers.memberFilter = none := rfl
  rw [Options.Admits, hfilter, Option.isSome_iff_exists]
  constructor
  · rintro ⟨⟨category, hcategory, -⟩, -⟩
    exact ⟨category, hcategory⟩
  · rintro ⟨category, hcategory⟩
    refine ⟨⟨category, hcategory, ?_⟩, fun filter hmem => nomatch hmem⟩
    cases category <;> cases item.isPublic <;> rfl

theorem Kind.category?_eq_none_iff {kind : Kind} :
    kind.category? = none ↔ kind.isContainer = true ∨ kind = .region := by
  cases kind <;> simp [Kind.category?, Kind.isContainer]

/-- What is admitted is of a category, and neither a container nor a marker. -/
theorem Options.admits_iff_allMembers {options : Options} {item : Item} :
    options.Admits item ↔ options.allMembers.Admits item
      ∧ (item.kind.isContainer = true ∨ item.kind = .region ∨ options.Admits item) := by
  rw [admits_allMembers_iff]
  constructor
  · intro hadmits
    obtain ⟨category, hcategory, -⟩ := hadmits.1
    exact ⟨Option.isSome_iff_exists.2 ⟨category, hcategory⟩, .inr (.inr hadmits)⟩
  · rintro ⟨hcategory, hcontainer | hregion | hadmits⟩
    · rw [Kind.category?_eq_none_iff.2 (.inl hcontainer)] at hcategory
      cases hcategory
    · rw [Kind.category?_eq_none_iff.2 (.inr hregion)] at hcategory
      cases hcategory
    · exact hadmits

/-- Toggles and filter, against all members. -/
theorem Options.narrows_allMembers (options : Options) :
    options.Narrows options.allMembers fun item =>
      decide (item.kind.isContainer = true ∨ item.kind = .region ∨ options.Admits item) where
  sortMembers := rfl
  containers := rfl
  leaf := by
    intro entry
    rw [Bool.eq_iff_iff, Bool.and_eq_true, showsLeaf_iff, showsLeaf_iff, decide_eq_true_iff]
    exact admits_iff_allMembers
  container := fun _ hcontainer => decide_eq_true (.inl hcontainer)
  region := fun _ hregion => decide_eq_true (.inr (.inl hregion))

section SwitchOff

variable (options : Options) (category : Category) (isPublic : Bool)

theorem Options.allows_switchOff_iff (other : Category) (isPublic' : Bool) :
    ((options.switchOff category isPublic).visibility other).allows isPublic' = true
      ↔ (options.visibility other).allows isPublic' = true
        ∧ ¬(other = category ∧ isPublic' = isPublic) := by
  cases category <;> cases other <;> cases isPublic <;> cases isPublic' <;>
    simp [switchOff, withVisibility, visibility, Visibility.allows]

/-- A toggle that is off refuses what it is about, and nothing else. -/
theorem Options.admits_switchOff_iff (item : Item) :
    (options.switchOff category isPublic).Admits item
      ↔ options.Admits item ∧ ¬Concerns category isPublic item := by
  have hfilter : (options.switchOff category isPublic).memberFilter = options.memberFilter := by
    cases category <;> rfl
  unfold Admits Concerns
  rw [hfilter]
  constructor
  · rintro ⟨⟨other, hother, hallows⟩, hname⟩
    obtain ⟨hallows, hdiffer⟩ := (options.allows_switchOff_iff category isPublic _ _).1 hallows
    refine ⟨⟨⟨other, hother, hallows⟩, hname⟩, ?_⟩
    rintro ⟨hcategory, hpublic⟩
    rw [Option.mem_def.1 hother] at hcategory
    exact hdiffer ⟨Option.some.inj hcategory, hpublic⟩
  · rintro ⟨⟨⟨other, hother, hallows⟩, hname⟩, hdiffer⟩
    refine ⟨⟨other, hother, ?_⟩, hname⟩
    refine (options.allows_switchOff_iff category isPublic _ _).2 ⟨hallows, ?_⟩
    rintro ⟨rfl, hpublic⟩
    exact hdiffer ⟨hother, hpublic⟩

/-- What is in no category is not concerned. -/
theorem Options.not_concerns_of_category?_eq_none {item : Item} (h : item.kind.category? = none) :
    ¬Concerns category isPublic item := by
  rintro ⟨hcategory, -⟩
  rw [h] at hcategory
  cases hcategory

/-- One toggle, against the options that have it as it was. -/
theorem Options.narrows_switchOff :
    (options.switchOff category isPublic).Narrows options fun item =>
      !decide (Concerns category isPublic item) where
  sortMembers := by cases category <;> rfl
  containers := by cases category <;> rfl
  leaf := by
    intro entry
    rw [Bool.eq_iff_iff, Bool.and_eq_true, showsLeaf_iff, showsLeaf_iff, Bool.not_eq_true',
      decide_eq_false_iff_not]
    exact options.admits_switchOff_iff category isPublic entry.item
  container := by
    intro item hcontainer
    have hnone := Kind.category?_eq_none_iff.2 (.inl hcontainer)
    simp [not_concerns_of_category?_eq_none category isPublic hnone]
  region := by
    intro item hregion
    have hnone := Kind.category?_eq_none_iff.2 (.inr hregion)
    simp [not_concerns_of_category?_eq_none category isPublic hnone]

end SwitchOff

/-- **Toggles and the member filter act on the finished outline.** In both orders of a level, and
whether or not a filter on containers is in force, an outline is what there is with all toggles of
members on and no member filter, less the rows that are neither containers nor markers and that
the toggles of their category or the filter refuse. So switching one toggle off removes the rows
of its category and visibility, at every depth, and leaves all others where they are. -/
theorem toggles_filter_outline (forest : Forest) (options : Options) (encodesContainment : Bool) :
    forest.emit options encodesContainment
      = (forest.emit options.allMembers encodesContainment).filter (fun item =>
          item.kind.isContainer = true ∨ item.kind = .region ∨ options.Admits item)
    ∧ ∀ category isPublic,
      forest.emit (options.switchOff category isPublic) encodesContainment
        = (forest.emit options encodesContainment).filter (fun item =>
            ¬Options.Concerns category isPublic item) := by
  refine ⟨options.narrows_allMembers.emit (fun _ => rfl) forest, ?_⟩
  intro category isPublic
  have hclass : (options.switchOff category isPublic).classFilter = options.classFilter := by
    cases category <;> rfl
  rw [(options.narrows_switchOff category isPublic).emit (fun _ => hclass) forest]
  simp only [decide_not]

end SourceOutline
