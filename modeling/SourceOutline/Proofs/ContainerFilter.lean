/-
A filter on containers, place by place.

Emission decides about a container before it has seen what stands inside. It looks ahead for
a match (`Member.holdsMatch`), keeps the container as a heading if there is one, and goes
through its level again. What comes out is said here without an order of events. A `Place` is
a member with the containers around it, and `Options.Selects` says of a place alone whether
it is listed: by the kinds on the way to it, by its title or that of its direct container,
and by the titles of containers inside.

That the two agree is one induction over the forest (`Forest.rows_places`), which knows of
the places around a level that all are containers of shown kinds. The look-ahead is exact
(`Member.holdsMatch_iff`). So where it finds nothing, nothing below is selected, and where it
finds a match, the containers on the way to the match are found to be headings in turn.
-/
import SourceOutline.Proofs.TitleOrder
import SourceOutline.Proofs.Toggles

set_option autoImplicit false

namespace SourceOutline

open scoped List

/-! ## Places -/

/-- A member where it stands: with the members around it, the innermost first. -/
structure Place where
  member : Member
  around : List Member

/-- What an outline lists for a place. -/
def Place.item (place : Place) : Item := place.member.entry.item

mutual

/-- The places of a member and of all that stands below it, parents first. -/
def Member.places (around : List Member) : Member → List Place
  | .node entry children =>
    ⟨.node entry children, around⟩ :: Forest.placesIn (.node entry children :: around) children

/-- The places of members side by side and of all that stands below them. -/
def Forest.placesIn (around : List Member) : Forest → List Place
  | [] => []
  | member :: rest => member.places around ++ Forest.placesIn around rest

end

/-- The places of a forest. -/
def Forest.places (forest : Forest) : List Place := forest.placesIn []

theorem Forest.mem_placesIn_of_mem {around : List Member} {forest : Forest} {member : Member}
    {place : Place} (hmember : member ∈ forest) (h : place ∈ member.places around) :
    place ∈ forest.placesIn around := by
  induction forest with
  | nil => cases hmember
  | cons other rest ih =>
    rw [Forest.placesIn]
    rcases List.mem_cons.1 hmember with rfl | hrest
    · exact List.mem_append_left _ h
    · exact List.mem_append_right _ (ih hrest)

theorem Member.self_mem_places (member : Member) (around : List Member) :
    ⟨member, around⟩ ∈ member.places around := by
  cases member with
  | node entry children =>
    rw [Member.places]
    exact List.mem_cons_self

theorem Member.mem_places {member : Member} {around : List Member} {place : Place} :
    place ∈ member.places around
      ↔ place = ⟨member, around⟩ ∨ place ∈ member.children.placesIn (member :: around) := by
  cases member with
  | node entry children =>
    rw [Member.places, List.mem_cons]
    rfl

mutual

/-- What stands around a member stands around all places below it, behind the member
itself. -/
theorem Member.suffix_of_mem_places {around : List Member} {place : Place} :
    (member : Member) → place ∈ member.places around →
      (member :: around) <:+ (place.member :: place.around)
  | .node entry children, h => by
    rcases Member.mem_places.1 h with rfl | hbelow
    · exact List.suffix_refl _
    · exact (Forest.suffix_of_mem_placesIn children hbelow).trans (List.suffix_cons _ _)

theorem Forest.suffix_of_mem_placesIn {around : List Member} {place : Place} :
    (forest : Forest) → place ∈ forest.placesIn around → around <:+ place.around
  | member :: rest, h => by
    rw [Forest.placesIn] at h
    rcases List.mem_append.1 h with hmember | hrest
    · obtain ⟨between, hbetween⟩ := Member.suffix_of_mem_places member hmember
      rcases List.append_eq_cons_iff.1 hbetween with ⟨rfl, heq⟩ | ⟨tail, rfl, heq⟩
      · cases heq
        exact List.suffix_refl _
      · exact ⟨tail ++ [member], by rw [heq, List.append_assoc]; rfl⟩
    · exact Forest.suffix_of_mem_placesIn rest hrest

end

mutual

/-- A child of what stands in a place has a place of its own. -/
theorem Member.child_mem_places {around : List Member} {place : Place} {child : Member} :
    (member : Member) → place ∈ member.places around → child ∈ place.member.children →
      ⟨child, place.member :: place.around⟩ ∈ member.places around
  | .node entry children, h, hchild => by
    refine Member.mem_places.2 (.inr ?_)
    rcases Member.mem_places.1 h with rfl | hbelow
    · exact Forest.mem_placesIn_of_mem hchild (child.self_mem_places _)
    · exact Forest.child_mem_placesIn children hbelow hchild

theorem Forest.child_mem_placesIn {around : List Member} {place : Place} {child : Member} :
    (forest : Forest) → place ∈ forest.placesIn around → child ∈ place.member.children →
      ⟨child, place.member :: place.around⟩ ∈ forest.placesIn around
  | member :: rest, h, hchild => by
    rw [Forest.placesIn] at h ⊢
    rcases List.mem_append.1 h with hmember | hrest
    · exact List.mem_append_left _ (Member.child_mem_places member hmember hchild)
    · exact List.mem_append_right _ (Forest.child_mem_placesIn rest hrest hchild)

end

/-! ## What is listed -/

/-- The title of a member holds the filter. -/
def Member.Matches (filter : String) (member : Member) : Prop :=
  Text.Holds member.entry.title filter

instance (filter : String) (member : Member) : Decidable (member.Matches filter) :=
  inferInstanceAs (Decidable (Text.Holds _ _))

namespace Options

/-- A container of a kind that is shown. -/
def Opens (options : Options) (member : Member) : Prop :=
  member.isContainer = true ∧ options.showsContainer member.entry.kind = true

instance (options : Options) (member : Member) : Decidable (options.Opens member) :=
  inferInstanceAs (Decidable (_ ∧ _))

/-- One member stands below another, with containers of shown kinds on the way. It is such a
container itself. -/
inductive Reaches (options : Options) : Member → Member → Prop where
  | child {outer inner : Member} (hchild : inner ∈ outer.children) (hopens : options.Opens inner) :
      Reaches options outer inner
  | deeper {outer middle inner : Member} (hchild : middle ∈ outer.children)
      (hopens : options.Opens middle) (hreaches : Reaches options middle inner) :
      Reaches options outer inner

/-- A container matches, or one that it reaches does. -/
def Leads (options : Options) (filter : String) (container : Member) : Prop :=
  container.Matches filter ∨ ∃ inner, options.Reaches container inner ∧ inner.Matches filter

/-- A container is listed where it stands: it and all members around it are containers of shown
kinds, and it matches or leads to a match. -/
structure ListsContainer (options : Options) (filter : String) (place : Place) : Prop where
  opens : ∀ member ∈ place.member :: place.around, options.Opens member
  leads : options.Leads filter place.member

/-- The members of a level are listed, given what stands around it: the innermost of that is a
container that is listed and matches by its own title. -/
def ListsLevel (options : Options) (filter : String) : List Member → Prop
  | [] => False
  | container :: around =>
    options.ListsContainer filter ⟨container, around⟩ ∧ container.Matches filter

/-- What is listed under a filter on containers. -/
def Selects (options : Options) (filter : String) (place : Place) : Prop :=
  if place.member.isContainer then options.ListsContainer filter place
  else if place.member.entry.kind = .region then
    options.sortMembers = false ∧ options.ListsLevel filter place.around
  else options.Admits place.item ∧ options.ListsLevel filter place.around

end Options

section Lookahead

variable {options : Options} {filter : String}

theorem Options.Reaches.trans {outer middle inner : Member} (h : options.Reaches outer middle)
    (h' : options.Reaches middle inner) : options.Reaches outer inner := by
  induction h with
  | child hchild hopens => exact .deeper hchild hopens h'
  | deeper hchild hopens _ ih => exact .deeper hchild hopens (ih h')

theorem Options.Reaches.leads {outer inner : Member} (h : options.Reaches outer inner)
    (hleads : options.Leads filter inner) : options.Leads filter outer := by
  rcases hleads with hmatches | ⟨other, hreaches, hmatches⟩
  · exact .inr ⟨inner, h, hmatches⟩
  · exact .inr ⟨other, h.trans hreaches, hmatches⟩

mutual

/-- **The look-ahead is exact.** -/
theorem Member.holdsMatch_iff :
    (member : Member) → (member.holdsMatch options filter = true
      ↔ ∃ inner, options.Reaches member inner ∧ inner.Matches filter)
  | .node entry children => by
    rw [Member.holdsMatch, Forest.holdsMatch_iff children]
    constructor
    · rintro ⟨child, hchild, hopens, hmatches | ⟨inner, hreaches, hmatches⟩⟩
      · exact ⟨child, .child hchild hopens, hmatches⟩
      · exact ⟨inner, .deeper hchild hopens hreaches, hmatches⟩
    · rintro ⟨inner, hreaches, hmatches⟩
      cases hreaches with
      | child hchild hopens => exact ⟨inner, hchild, hopens, .inl hmatches⟩
      | deeper hchild hopens hreaches =>
        exact ⟨_, hchild, hopens, .inr ⟨inner, hreaches, hmatches⟩⟩

theorem Forest.holdsMatch_iff :
    (forest : Forest) → (forest.holdsMatch options filter = true
      ↔ ∃ member ∈ forest, options.Opens member ∧ options.Leads filter member)
  | [] => by simp [Forest.holdsMatch]
  | member :: rest => by
    have hmatches : matchesFilter member.entry.title (some filter) = true
        ↔ member.Matches filter := by
      rw [matchesFilter_iff]
      simp [Member.Matches]
    rw [Forest.holdsMatch, Bool.or_eq_true, Bool.and_eq_true, Bool.and_eq_true, Bool.or_eq_true,
      hmatches, Member.holdsMatch_iff member, Forest.holdsMatch_iff rest, List.exists_mem_cons_iff]
    rfl

end

instance (member : Member) : Decidable (options.Leads filter member) :=
  decidable_of_iff (member.Matches filter ∨ member.holdsMatch options filter = true)
    (by rw [Options.Leads, Member.holdsMatch_iff])

instance (place : Place) : Decidable (options.ListsContainer filter place) :=
  decidable_of_iff ((∀ member ∈ place.member :: place.around, options.Opens member)
      ∧ options.Leads filter place.member)
    ⟨fun h => ⟨h.1, h.2⟩, fun h => ⟨h.opens, h.leads⟩⟩

instance : (around : List Member) → Decidable (options.ListsLevel filter around)
  | [] => inferInstanceAs (Decidable False)
  | _ :: _ => inferInstanceAs (Decidable (_ ∧ _))

instance (place : Place) : Decidable (options.Selects filter place) :=
  inferInstanceAs (Decidable (if place.member.isContainer then options.ListsContainer filter place
    else if place.member.entry.kind = .region then _ ∧ _ else _ ∧ _))

/-- What becomes of a container: it is listed with its members, as a heading, or not at all. -/
theorem ownMembers?_cases (options : Options) (filter : String) (member : Member) :
    (ownMembers? options (some filter) member = none
      ∧ ¬(options.showsContainer member.entry.kind = true ∧ options.Leads filter member))
    ∨ ∃ own, ownMembers? options (some filter) member = some own
      ∧ options.showsContainer member.entry.kind = true ∧ options.Leads filter member
      ∧ (own = true ↔ member.Matches filter) := by
  have hmatches : matchesFilter member.entry.title (some filter) = true
      ↔ member.Matches filter := by
    rw [matchesFilter_iff]
    simp [Member.Matches]
  unfold ownMembers?
  dsimp only
  split
  · rename_i hshows
    split
    · rename_i hmatch
      rw [hmatches] at hmatch
      exact .inr ⟨true, rfl, hshows, .inl hmatch, iff_of_true rfl hmatch⟩
    · rename_i hno
      rw [hmatches] at hno
      split
      · rename_i hholds
        rw [Member.holdsMatch_iff] at hholds
        exact .inr ⟨false, rfl, hshows, .inr hholds, iff_of_false Bool.false_ne_true hno⟩
      · rename_i hholds
        rw [Member.holdsMatch_iff] at hholds
        exact .inl ⟨rfl, fun h => h.2.elim hno hholds⟩
  · rename_i hhidden
    exact .inl ⟨rfl, fun h => hhidden h.1⟩

end Lookahead

/-! ## Containers around a place -/

section Selected

variable {options : Options} {filter : String}

theorem Options.ListsLevel.opens {around : List Member} (h : options.ListsLevel filter around) :
    ∀ member ∈ around, options.Opens member := by
  cases around with
  | nil => exact h.elim
  | cons container around => exact h.1.opens

/-- Nothing is listed in a container that is not shown. -/
theorem Options.Selects.opens_around {place : Place} (h : options.Selects filter place) :
    ∀ member ∈ place.around, options.Opens member := by
  unfold Options.Selects at h
  split at h
  · exact fun member hmember => h.opens member (List.mem_cons_of_mem _ hmember)
  · split at h
    · exact h.2.opens
    · exact h.2.opens

mutual

/-- The direct container of a place is the member itself or one that it reaches. -/
theorem Member.exists_container {around : List Member} {place : Place} :
    (member : Member) → place ∈ member.places around →
      (∀ other ∈ place.around, options.Opens other) →
      place = ⟨member, around⟩
      ∨ ∃ container outer, place.around = container :: outer ∧ place.member ∈ container.children
        ∧ (container = member ∨ options.Reaches member container)
  | .node entry children, h, hopens => by
    refine (Member.mem_places.1 h).imp id fun hbelow => ?_
    rcases Forest.exists_container children hbelow hopens with
      ⟨hmember, haround⟩ | ⟨container, outer, haround, hchild, middle, hmiddle, hopen, hreaches⟩
    · exact ⟨_, _, haround, hmember, .inl rfl⟩
    · refine ⟨container, outer, haround, hchild, .inr ?_⟩
      rcases hreaches with rfl | hreaches
      · exact .child hmiddle hopen
      · exact .deeper hmiddle hopen hreaches

theorem Forest.exists_container {around : List Member} {place : Place} :
    (forest : Forest) → place ∈ forest.placesIn around →
      (∀ other ∈ place.around, options.Opens other) →
      place.member ∈ forest ∧ place.around = around
      ∨ ∃ container outer, place.around = container :: outer ∧ place.member ∈ container.children
        ∧ ∃ member ∈ forest, options.Opens member
          ∧ (container = member ∨ options.Reaches member container)
  | member :: rest, h, hopens => by
    rw [Forest.placesIn] at h
    rcases List.mem_append.1 h with hmember | hrest
    · rcases Member.mem_places.1 hmember with rfl | hbelow
      · exact .inl ⟨List.mem_cons_self, rfl⟩
      · have hsuffix := Forest.suffix_of_mem_placesIn _ hbelow
        have hopen : options.Opens member := hopens member (hsuffix.subset List.mem_cons_self)
        rcases Member.exists_container member hmember hopens with
          rfl | ⟨container, outer, haround, hchild, hreaches⟩
        · exact .inl ⟨List.mem_cons_self, rfl⟩
        · exact .inr ⟨container, outer, haround, hchild, member, List.mem_cons_self, hopen,
            hreaches⟩
    · rcases Forest.exists_container rest hrest hopens with
        ⟨hmem, haround⟩ | ⟨container, outer, haround, hchild, other, hother, hreaches⟩
      · exact .inl ⟨List.mem_cons_of_mem _ hmem, haround⟩
      · exact .inr ⟨container, outer, haround, hchild, other, List.mem_cons_of_mem _ hother,
          hreaches⟩

end

/-- A container in which something is selected is shown. -/
theorem Member.opens_of_selects {around : List Member} {member : Member} {place : Place}
    (hcontainer : member.isContainer = true) (hplace : place ∈ member.places around)
    (h : options.Selects filter place) : options.Opens member := by
  rcases Member.mem_places.1 hplace with rfl | hbelow
  · rw [Options.Selects, if_pos hcontainer] at h
    exact h.opens member List.mem_cons_self
  · have hsuffix := Forest.suffix_of_mem_placesIn _ hbelow
    exact h.opens_around member (hsuffix.subset List.mem_cons_self)

/-- **What is selected inside a container is found by the look-ahead.** -/
theorem Member.leads_of_selects {around : List Member} {member : Member} {place : Place}
    (hopens : options.Opens member) (hplace : place ∈ member.places around)
    (h : options.Selects filter place) : options.Leads filter member := by
  rcases Member.exists_container member hplace h.opens_around with
    rfl | ⟨container, outer, haround, hchild, hcontainer⟩
  · rw [Options.Selects, if_pos hopens.1] at h
    exact h.leads
  · have hleads : options.Leads filter container := by
      unfold Options.Selects at h
      split at h
      · -- The place is a container of its own, which the one around it reaches.
        have hopen : options.Opens place.member := h.opens _ List.mem_cons_self
        exact (Options.Reaches.child hchild hopen).leads h.leads
      · rw [haround] at h
        split at h
        · exact .inl h.2.2
        · exact .inl h.2.2
    rcases hcontainer with rfl | hreaches
    · exact hleads
    · exact hreaches.leads hleads

end Selected

/-! ## Rows -/

section Rows

variable {options : Options} {filter : String}

/-- Below what is no container nothing is selected. -/
theorem Member.filter_places_of_plain {member : Member} (h : member.isContainer = false)
    (around : List Member) :
    (member.places around).filter (fun place => options.Selects filter place)
      = if options.Selects filter ⟨member, around⟩ then [⟨member, around⟩] else [] := by
  have hbelow : (member.children.placesIn (member :: around)).filter
      (fun place => options.Selects filter place) = [] := by
    rw [List.filter_eq_nil_iff]
    intro place hplace hselects
    have hsuffix := Forest.suffix_of_mem_placesIn _ hplace
    have hopens := (of_decide_eq_true hselects).opens_around member
      (hsuffix.subset List.mem_cons_self)
    rw [hopens.1] at h
    cases h
  have hplaces : member.places around
      = ⟨member, around⟩ :: member.children.placesIn (member :: around) := by
    cases member with
    | node entry children => rfl
  rw [hplaces, List.filter_cons, hbelow]
  simp only [decide_eq_true_eq]

/-- The row of a leaf or marker, in declaration order. -/
theorem leafRows_eq_filter (hsort : options.sortMembers = false) {member : Member}
    (h : member.isContainer = false) {around : List Member} {loose : Bool}
    (hloose : loose = true ↔ options.ListsLevel filter around) :
    leafRows options loose member.entry
      = if options.Selects filter ⟨member, around⟩ then [member.entry] else [] := by
  have hselects : (loose && (member.entry.kind == .region || options.showsLeaf member.entry)) = true
      ↔ options.Selects filter ⟨member, around⟩ := by
    have hplain : ¬member.isContainer = true := by
      rw [h]
      exact Bool.false_ne_true
    rw [Bool.and_eq_true, hloose, Bool.or_eq_true, beq_iff_eq, Options.showsLeaf_iff,
      Options.Selects, if_neg hplain]
    by_cases hregion : member.entry.kind = .region
    · simp [hregion, hsort]
    · simp only [hregion, if_false, false_or]
      exact and_comm
  rw [leafRows]
  exact if_congr hselects rfl rfl

mutual

/-- **The rows of a container** are those of the places selected in it. -/
theorem Member.rows_places (hsort : options.sortMembers = false) {around : List Member}
    (haround : ∀ other ∈ around, options.Opens other) :
    (member : Member) → member.isContainer = true →
      member.rows options (some filter)
        = ((member.places around).filter fun place => options.Selects filter place).map
            fun place => place.member.entry
  | .node entry children, hcontainer => by
    rw [Member.rows]
    rcases ownMembers?_cases options filter (.node entry children) with
      ⟨hown, hnot⟩ | ⟨own, hown, hshows, hleads, hmatches⟩
    · -- Had it a selected place in it, the look-ahead would have found that.
      rw [hown]
      have hnone : ((Member.node entry children).places around).filter
          (fun place => options.Selects filter place) = [] := by
        rw [List.filter_eq_nil_iff]
        intro place hplace hselects
        have hopens := Member.opens_of_selects hcontainer hplace (of_decide_eq_true hselects)
        exact hnot ⟨hopens.2,
          Member.leads_of_selects hopens hplace (of_decide_eq_true hselects)⟩
      rw [hnone]
      rfl
    · -- It is selected itself, and its level lists leaves exactly if its title matches.
      rw [hown]
      dsimp only
      have hopens : options.Opens (.node entry children) := ⟨hcontainer, hshows⟩
      have haround' := List.forall_mem_cons.2 ⟨hopens, haround⟩
      have hself : options.Selects filter ⟨.node entry children, around⟩ := by
        rw [Options.Selects, if_pos hcontainer]
        exact ⟨haround', hleads⟩
      have hlevel : own = true ↔ options.ListsLevel filter (.node entry children :: around) := by
        rw [hmatches, Options.ListsLevel]
        exact ⟨fun h => ⟨⟨haround', hleads⟩, h⟩, fun h => h.2⟩
      rw [Member.places, List.filter_cons, if_pos (decide_eq_true hself), List.map_cons,
        arrange_unsorted hsort, Forest.rows_places hsort haround' hlevel children]
      rfl

/-- **The rows of a level**, given whether its members may be listed. -/
theorem Forest.rows_places (hsort : options.sortMembers = false) {around : List Member}
    (haround : ∀ other ∈ around, options.Opens other) {loose : Bool}
    (hloose : loose = true ↔ options.ListsLevel filter around) :
    (forest : Forest) → (forest.blocks options (some filter) loose).flatMap Block.rows
      = ((forest.placesIn around).filter fun place => options.Selects filter place).map
          fun place => place.member.entry
  | [] => rfl
  | member :: rest => by
    rw [Forest.blocks, List.flatMap_cons, Forest.placesIn, List.filter_append, List.map_append,
      Forest.rows_places hsort haround hloose rest]
    dsimp only
    congr 1
    split
    · rename_i hcontainer
      exact Member.rows_places hsort haround member hcontainer
    · rename_i hplain
      rw [Bool.not_eq_true] at hplain
      rw [Member.filter_places_of_plain hplain, leafRows_eq_filter hsort hplain hloose]
      split <;> rfl

end

end Rows

/-! ## Both orders of a level -/

section Orders

variable {options options' : Options} {filter : String}

theorem Options.Reaches.mono (hopens : ∀ member, options.Opens member → options'.Opens member)
    {outer inner : Member} (h : options.Reaches outer inner) : options'.Reaches outer inner := by
  induction h with
  | child hchild hopen => exact .child hchild (hopens _ hopen)
  | deeper hchild hopen _ ih => exact .deeper hchild (hopens _ hopen) ih

theorem Options.ListsContainer.mono
    (hopens : ∀ member, options.Opens member → options'.Opens member) {place : Place}
    (h : options.ListsContainer filter place) : options'.ListsContainer filter place :=
  ⟨fun member hmember => hopens member (h.opens member hmember),
    h.leads.imp id fun ⟨inner, hreaches, hmatches⟩ => ⟨inner, hreaches.mono hopens, hmatches⟩⟩

theorem Options.ListsLevel.mono (hopens : ∀ member, options.Opens member → options'.Opens member)
    {around : List Member} (h : options.ListsLevel filter around) :
    options'.ListsLevel filter around := by
  cases around with
  | nil => exact h.elim
  | cons container around => exact ⟨h.1.mono hopens, h.2⟩

/-- Sorting takes the markers out of what is selected. -/
theorem Options.selects_sorting_iff {place : Place} :
    (options.sorting true).Selects filter place
      ↔ (options.sorting false).Selects filter place ∧ place.item.kind ≠ .region := by
  have hopens : ∀ sorted sorted' member, (options.sorting sorted).Opens member →
      (options.sorting sorted').Opens member := fun _ _ _ h => h
  have hcontainer : (options.sorting true).ListsContainer filter place
      ↔ (options.sorting false).ListsContainer filter place :=
    ⟨.mono (hopens _ _), .mono (hopens _ _)⟩
  have hlevel : (options.sorting true).ListsLevel filter place.around
      ↔ (options.sorting false).ListsLevel filter place.around :=
    ⟨.mono (hopens _ _), .mono (hopens _ _)⟩
  have hadmits : (options.sorting true).Admits place.item
      ↔ (options.sorting false).Admits place.item := Iff.rfl
  have hkind : place.item.kind = place.member.entry.kind := rfl
  unfold Options.Selects
  rw [hcontainer, hlevel, hadmits, hkind]
  by_cases hmember : place.member.isContainer = true
  · have hregion : place.member.entry.kind ≠ .region := bne_iff_ne.1 (Member.kind_ne_region hmember)
    simp [hmember, hregion]
  · by_cases hregion : place.member.entry.kind = .region
    · simp [hmember, hregion, Options.sorting]
    · simp [hmember, hregion]

/-- **The items of an outline** under a filter on containers, in both orders of a level. -/
theorem Forest.emit_perm_selected (hfilter : options.classFilter = some filter)
    (forest : Forest) : forest.emit options true
      ~ (forest.places.filter fun place => options.Selects filter place).map Place.item := by
  have hemit : forest.emit options true
      = (arrange options (forest.blocks options (some filter) false)).map Entry.item := by
    unfold Forest.emit
    dsimp only
    rw [if_pos rfl, hfilter, Option.isNone_some, Bool.and_false]
  rw [hemit]
  cases hsort : options.sortMembers with
  | false =>
    have hloose : false = true ↔ options.ListsLevel filter [] := iff_of_false Bool.false_ne_true id
    rw [arrange_unsorted hsort, Forest.rows_places hsort (List.forall_mem_nil _) hloose forest,
      List.map_map]
    exact .refl _
  | true =>
    -- Title order has the rows that the order of lines has, less the markers.
    have hoptions : options.sorting true = options := by rw [Options.sorting, ← hsort]
    have hblocks := forest.blocks_sorted_perm options (some filter) false
    have hplaces : (forest.blocks (options.sorting false) (some filter) false).flatMap Block.rows
        = (forest.places.filter fun place => (options.sorting false).Selects filter place).map
            fun place => place.member.entry :=
      Forest.rows_places rfl (List.forall_mem_nil _) (iff_of_false Bool.false_ne_true id) forest
    have hselects : ∀ place : Place, options.Selects filter place
        ↔ (options.sorting false).Selects filter place ∧ place.item.kind ≠ .region := by
      intro place
      have hsorting := @Options.selects_sorting_iff options filter place
      rwa [hoptions] at hsorting
    rw [hoptions, hplaces, List.filter_map, List.filter_filter] at hblocks
    have hrows := ((arrange_sorted_perm hsort _).trans hblocks).map Entry.item
    rw [List.map_map] at hrows
    refine hrows.trans (.of_eq ?_)
    congr 1
    apply List.filter_congr
    intro place _
    rw [Bool.eq_iff_iff, Bool.and_eq_true, Function.comp_apply, bne_iff_ne, decide_eq_true_iff,
      decide_eq_true_iff, hselects]
    exact and_comm

end Orders

/-! ## Headings -/

section Headings

variable {options : Options} {filter : String} {forest : Forest}

/-- What a container reaches stands in a place behind it, with containers of shown kinds
around. -/
theorem Options.Reaches.exists_place {outer inner : Member} (h : options.Reaches outer inner)
    {around : List Member} (hplace : ⟨outer, around⟩ ∈ forest.places)
    (hopens : ∀ other ∈ outer :: around, options.Opens other) :
    ∃ around', ⟨inner, around'⟩ ∈ forest.places ∧ (outer :: around) <:+ around'
      ∧ ∀ other ∈ inner :: around', options.Opens other := by
  induction h generalizing around with
  | @child outer inner hchild hopen =>
    exact ⟨outer :: around, Forest.child_mem_placesIn forest hplace hchild, List.suffix_refl _,
      List.forall_mem_cons.2 ⟨hopen, hopens⟩⟩
  | @deeper outer middle inner hchild hopen _ ih =>
    have hmiddle : ⟨middle, outer :: around⟩ ∈ forest.places :=
      Forest.child_mem_placesIn forest hplace hchild
    obtain ⟨around', hinner, hsuffix, hopens'⟩ :=
      ih hmiddle (List.forall_mem_cons.2 ⟨hopen, hopens⟩)
    exact ⟨around', hinner, (List.suffix_cons _ _).trans hsuffix, hopens'⟩

/-- **A heading has a match below it** that is listed too. -/
theorem Options.ListsContainer.exists_match {place : Place}
    (h : options.ListsContainer filter place) (hplace : place ∈ forest.places)
    (hno : ¬place.member.Matches filter) :
    ∃ inner ∈ forest.places, (place.member :: place.around) <:+ inner.around
      ∧ options.ListsContainer filter inner ∧ inner.member.Matches filter := by
  obtain ⟨inner, hreaches, hmatches⟩ := h.leads.resolve_left hno
  obtain ⟨around, hinner, hsuffix, hopens⟩ := hreaches.exists_place hplace h.opens
  exact ⟨⟨inner, around⟩, hinner, hsuffix, ⟨hopens, .inl hmatches⟩, hmatches⟩

end Headings

/-- Where members do not stand in containers, the filter is not looked at. -/
theorem Forest.emit_uncontained (forest : Forest) (options : Options) (filter : Option String) :
    forest.emit { options with classNameFilter := filter } false = forest.emit options false := by
  have hnarrows : Options.Narrows { options with classNameFilter := filter } options
      fun _ => true :=
    ⟨rfl, rfl, fun _ => (Bool.and_true _).symm, fun _ _ => rfl, fun _ _ => rfl⟩
  rw [hnarrows.emit (fun hencodes => absurd hencodes Bool.false_ne_true), List.filter_true]

/-- **What an outline lists under a filter on containers.** It lists the items of the places that
are selected, each as often as it is there. A container is selected if it and all around it are
containers of shown kinds, and its title or that of a container it reaches holds the filter;
anything else only in a container that is selected and matches by its own title, a leaf if its
toggles and the member filter admit it, a marker if members are not sorted. So nothing is listed
at the top but containers, and each one without a match of its own has a listed match below it.
If members do not stand in containers, the filter makes no difference. -/
theorem container_filter_selects_places (forest : Forest) (options : Options) (filter : String)
    (hfilter : options.classFilter = some filter) :
    (forest.emit options true
      ~ (forest.places.filter fun place => options.Selects filter place).map Place.item)
    ∧ (∀ place ∈ forest.places, options.ListsContainer filter place →
        ¬place.member.Matches filter →
        ∃ inner ∈ forest.places, (place.member :: place.around) <:+ inner.around
          ∧ options.ListsContainer filter inner ∧ inner.member.Matches filter)
    ∧ ∀ other, forest.emit { options with classNameFilter := other } false
        = forest.emit options false :=
  ⟨forest.emit_perm_selected hfilter, fun _ hplace hlists => hlists.exists_match hplace,
    forest.emit_uncontained options⟩

/-- A class that is kept for a match inside it. The match has a class in it that does not match,
and an interface, which is hidden, holds another match. -/
theorem container_filter_selects_places_of_heading :
    let leaf (kind : Kind) (name : String) : Member :=
      .leaf { kind := kind, name := name, startLine := 0 }
    let node (kind : Kind) (name : String) (children : Forest) : Member :=
      .node { kind := kind, name := name, startLine := 0 } children
    let inner : Member := node .structType "InnerPart"
      [leaf .method "run", .ofMarker ⟨.start, "R", 0⟩ 0 0, node .classType "Other" [leaf .field "x"],
        .ofMarker ⟨.stop, "R", 0⟩ 0 0]
    let outer : Member := node .classType "Outer"
      [leaf .field "y", node .interfaceType "Hidden" [node .classType "Inner" []], inner]
    let forest : Forest := [leaf .method "loose", outer]
    let options : Options := {
      containers := { interfaces := false }
      sortMembers := false
      classNameFilter := some " inner" }
    options.classFilter = some "inner"
    ∧ (forest.emit options true).map Item.title = ["Outer", "InnerPart", "run", "<R>", "</R>"]
    ∧ ¬outer.Matches "inner"
    ∧ (forest.emit options true
      ~ (forest.places.filter fun place => options.Selects "inner" place).map Place.item)
    ∧ (∀ place ∈ forest.places, options.ListsContainer "inner" place →
        ¬place.member.Matches "inner" →
        ∃ inner ∈ forest.places, (place.member :: place.around) <:+ inner.around
          ∧ options.ListsContainer "inner" inner ∧ inner.member.Matches "inner")
    ∧ ∀ other, forest.emit { options with classNameFilter := other } false
        = forest.emit options false := by
  intro leaf node inner outer forest options
  have hfilter : options.classFilter = some "inner" := by decide +kernel
  exact ⟨hfilter, by decide +kernel, by decide +kernel,
    container_filter_selects_places forest options "inner" hfilter⟩

end SourceOutline
