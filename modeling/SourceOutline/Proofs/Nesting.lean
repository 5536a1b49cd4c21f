/-
Nesting puts every member where its ancestry says.

`Forest.Housed` is what is left of the contract of a mapper once region markers are in
and identities are assigned: children have the child path of their container, and a
container stands in no type or in one that is there. A marker gets the ancestry of the
place it is put in, so splicing keeps it.

Nesting compares paths, so what it moves is in place afterwards (`Member.InPlace`), and it
moves all there is to move (`Forest.nest_keeping`).
-/
import SourceOutline.Proofs.Adoption
import SourceOutline.Proofs.Identity
import SourceOutline.Proofs.Splice

set_option autoImplicit false

namespace SourceOutline

open scoped List

/-! ## A forest with markers -/

/-- What the ancestry of a member has to be before it is nested. -/
structure Member.Housed (owner : Ancestry → Prop) (member : Member) : Prop where
  children : member.isContainer = true → ∀ child ∈ member.children,
    child.isContainer = false ∧ child.entry.parent = member.entry.childPath
  loose : member.isContainer = false → member.entry.parent.types = []
  owned : member.isContainer = true →
    member.entry.parent.types = [] ∨ owner member.entry.parent

/-- A forest whose members can be nested. -/
def Forest.Housed (forest : Forest) : Prop :=
  ∀ member ∈ forest, member.Housed (· ∈ forest.owners)

theorem Forest.Listed.housed {forest : Forest} (h : forest.Listed) : forest.Housed := by
  intro member hmember
  have hlisted := h member hmember
  refine ⟨fun hcontainer child hchild => ?_, fun hplain => ?_, hlisted.owned⟩
  · have hdirect := hlisted.children hcontainer child hchild
    exact ⟨hdirect.plain, hdirect.parent⟩
  · rw [hlisted.loose hplain]
    rfl

/-- The owners of a forest can be told from its entries. -/
theorem Forest.owners_eq (forest : Forest) :
    forest.owners = ((forest.map Member.entry).filter fun entry => entry.kind.isContainer).map
      Entry.childPath := by
  rw [Forest.owners, List.filter_map, List.map_map]
  rfl

theorem Member.Housed.mono {owner owner' : Ancestry → Prop} {member : Member}
    (h : member.Housed owner) (howner : ∀ path, owner path → owner' path) :
    member.Housed owner' :=
  ⟨h.children, h.loose, fun hcontainer => (h.owned hcontainer).imp id (howner _)⟩

/-! ## Markers -/

theorem Forest.Housed.insertByLine {forest : Forest} (h : forest.Housed) {marker : Member}
    (hplain : marker.isContainer = false) (htypes : marker.entry.parent.types = []) :
    (forest.insertByLine marker).Housed := by
  have hnot : ¬marker.isContainer = true := Bool.eq_false_iff.1 hplain
  intro member hmember
  rcases Forest.mem_insertByLine.1 hmember with rfl | hold
  · exact ⟨fun hcontainer => absurd hcontainer hnot, fun _ => htypes,
      fun hcontainer => absurd hcontainer hnot⟩
  · refine (h member hold).mono fun path hpath => ?_
    obtain ⟨owner, howner, hrest⟩ := Forest.mem_owners.1 hpath
    exact Forest.mem_owners.2 ⟨owner, Forest.mem_insertByLine.2 (.inr howner), hrest⟩

/-- Putting a marker inside a container changes no entry. -/
theorem Forest.map_entry_insertInside? {forest forest' : Forest} {startLine : Nat}
    {path : Ancestry} {marker : Member}
    (h : forest.insertInside? startLine path marker = some forest') :
    forest'.map Member.entry = forest.map Member.entry := by
  induction forest generalizing forest' with
  | nil => cases h
  | cons first rest ih =>
    rw [Forest.insertInside?] at h
    split at h
    · cases h
      rfl
    · obtain ⟨forest'', hinsert, rfl⟩ := Option.map_eq_some_iff.1 h
      rw [List.map_cons, ih hinsert, List.map_cons]

/-- It changes the children of one container, whose child path is that of the place. -/
theorem Forest.mem_insertInside? {forest forest' : Forest} {startLine : Nat} {path : Ancestry}
    {marker member : Member} (h : forest.insertInside? startLine path marker = some forest')
    (hmember : member ∈ forest') :
    member ∈ forest
      ∨ ∃ host ∈ forest, host.isOwner startLine path = true
        ∧ member = .node host.entry (Forest.insertByLine (marker.under path) host.children) := by
  induction forest generalizing forest' with
  | nil => cases h
  | cons first rest ih =>
    rw [Forest.insertInside?] at h
    split at h
    · rename_i howner
      cases h
      rcases List.mem_cons.1 hmember with rfl | hmember
      · exact .inr ⟨first, List.mem_cons_self, howner, rfl⟩
      · exact .inl (List.mem_cons_of_mem _ hmember)
    · obtain ⟨forest'', hinsert, rfl⟩ := Option.map_eq_some_iff.1 h
      rcases List.mem_cons.1 hmember with rfl | hmember
      · exact .inl List.mem_cons_self
      · rcases ih hinsert hmember with hold | ⟨host, hhost, hnew⟩
        · exact .inl (List.mem_cons_of_mem _ hold)
        · exact .inr ⟨host, List.mem_cons_of_mem _ hhost, hnew⟩

theorem Forest.Housed.insertInside? {forest forest' : Forest} (h : forest.Housed)
    {startLine : Nat} {path : Ancestry} {marker : Member} (hplain : marker.isContainer = false)
    (hinsert : forest.insertInside? startLine path marker = some forest') : forest'.Housed := by
  have howners : forest'.owners = forest.owners := by
    rw [Forest.owners_eq, Forest.map_entry_insertInside? hinsert, Forest.owners_eq]
  intro member hmember
  rw [howners]
  rcases Forest.mem_insertInside? hinsert hmember with hold | ⟨host, hhost, howner, rfl⟩
  · exact h member hold
  · have hhoused := h host hhost
    refine ⟨fun hcontainer child hchild => ?_, hhoused.loose, hhoused.owned⟩
    rcases Forest.mem_insertByLine.1 hchild with rfl | hchild
    · have hpath : host.entry.childPath = path := by
        rw [Member.isOwner, Bool.and_eq_true] at howner
        exact eq_of_beq howner.2
      rw [Member.isContainer, Member.entry_under]
      exact ⟨hplain, hpath.symm⟩
    · exact hhoused.children hcontainer child hchild

/-- A place in the file itself is outside every type. -/
def Placement.Outside : Placement → Prop
  | .topLevel path => path.types = []
  | .inside _ _ => True

theorem Forest.outside_locate (forest : Forest) (spans : List NamespaceSpan) (line : Nat) :
    (forest.locate spans line).Outside := by
  rw [Forest.locate]
  split
  · trivial
  · exact rfl

theorem Forest.Housed.place {forest : Forest} (h : forest.Housed) {marker : Member}
    (hmarker : marker.IsMark) {placement : Placement} (hplacement : placement.Outside) :
    (forest.place marker placement).Housed := by
  have hkind : marker.entry.kind = .region := eq_of_beq hmarker.1
  have hplain : ∀ path, (marker.under path).isContainer = false := by
    intro path
    rw [Member.isContainer, Member.entry_under, Entry.under, hkind]
    rfl
  have htypes : ∀ path : Ancestry, path.types = [] →
      (marker.under path).entry.parent.types = [] := by
    intro path hpath
    rw [Member.entry_under]
    exact hpath
  cases placement with
  | topLevel path => exact h.insertByLine (hplain path) (htypes path hplacement)
  | inside startLine path =>
    rw [Forest.place]
    split
    · rename_i forest' hinsert
      refine h.insertInside? ?_ hinsert
      rw [Member.isContainer, hkind]
      rfl
    · -- The container is gone, and the marker falls back to the file itself.
      exact h.insertByLine (hplain .root) (htypes .root rfl)

/-- **All markers.** -/
theorem Forest.Housed.spliceWith {forest : Forest} (h : forest.Housed)
    (spans : List NamespaceSpan) {stack : List Placement}
    (hstack : ∀ placement ∈ stack, placement.Outside) {markers : List Member}
    (hmarkers : ∀ marker ∈ markers, marker.IsMark) :
    (forest.spliceWith spans stack markers).Housed := by
  induction markers generalizing forest stack with
  | nil =>
    rw [Forest.spliceWith]
    exact h
  | cons marker rest ih =>
    obtain ⟨hmarker, hrest⟩ := List.forall_mem_cons.1 hmarkers
    have hlocated := forest.outside_locate spans marker.startLine
    -- An end goes where its start went, which is kept on the stack.
    unfold Forest.spliceWith
    split
    · split
      · exact ih (h.place hmarker hlocated) (List.forall_mem_nil _) hrest
      · obtain ⟨hplacement, houter⟩ := List.forall_mem_cons.1 hstack
        exact ih (h.place hmarker hplacement) houter hrest
    · exact ih (h.place hmarker hlocated) (List.forall_mem_cons.2 ⟨hlocated, hstack⟩) hrest

theorem Closes.isMark {line : Nat} {stack : List Bracket} {markers : List Member}
    (h : Closes line stack markers) : ∀ marker ∈ markers, marker.IsMark := by
  induction h with
  | done => exact List.forall_mem_nil _
  | mark hmark hline hstep hrest ih => exact List.forall_mem_cons.2 ⟨hmark, ih⟩

/-! ## Identities and colors -/

/-- Changes of an entry that leave its place alone. -/
structure KeepsPlace (f : Entry → Entry) : Prop where
  kind : ∀ entry, (f entry).kind = entry.kind
  name : ∀ entry, (f entry).name = entry.name
  parent : ∀ entry, (f entry).parent = entry.parent

theorem KeepsPlace.childPath {f : Entry → Entry} (hf : KeepsPlace f) (entry : Entry) :
    (f entry).childPath = entry.childPath := by
  rw [Entry.childPath, hf.parent, hf.name, Entry.childPath]

theorem KeepsPlace.isContainer {f : Entry → Entry} (hf : KeepsPlace f) (member : Member) :
    (member.mapEntries f).isContainer = member.isContainer := by
  rw [Member.isContainer, Member.entry_mapEntries, hf.kind, Member.isContainer]

theorem Forest.owners_mapEntries {f : Entry → Entry} (hf : KeepsPlace f) (forest : Forest) :
    (forest.mapEntries f).owners = forest.owners := by
  have hkind : (fun entry : Entry => entry.kind.isContainer) ∘ f
      = fun entry => entry.kind.isContainer := by
    funext entry
    rw [Function.comp_apply, hf.kind]
  have hpath : Entry.childPath ∘ f = Entry.childPath := by
    funext entry
    exact hf.childPath entry
  have hentries : (forest.mapEntries f).map Member.entry = (forest.map Member.entry).map f := by
    rw [Forest.mapEntries_eq_map, List.map_map, List.map_map]
    exact List.map_congr_left fun member _ => member.entry_mapEntries f
  rw [Forest.owners_eq, hentries, List.filter_map, List.map_map, hkind, hpath, Forest.owners_eq]

theorem Member.housed_mapEntries_iff {f : Entry → Entry} (hf : KeepsPlace f)
    {owner : Ancestry → Prop} (member : Member) :
    (member.mapEntries f).Housed owner ↔ member.Housed owner := by
  have hchildren : (∀ child ∈ (member.mapEntries f).children,
        child.isContainer = false ∧ child.entry.parent = member.entry.childPath)
      ↔ ∀ child ∈ member.children,
        child.isContainer = false ∧ child.entry.parent = member.entry.childPath := by
    rw [Member.children_mapEntries, List.forall_mem_map]
    simp only [hf.isContainer, Member.entry_mapEntries, hf.parent]
  constructor
  · rintro ⟨hbelow, hloose, howned⟩
    simp only [hf.isContainer, Member.entry_mapEntries, hf.parent, hf.childPath]
      at hbelow hloose howned
    exact ⟨fun hcontainer => hchildren.1 (hbelow hcontainer), hloose, howned⟩
  · rintro ⟨hbelow, hloose, howned⟩
    constructor <;> simp only [hf.isContainer, Member.entry_mapEntries, hf.parent, hf.childPath]
    · exact fun hcontainer => hchildren.2 (hbelow hcontainer)
    · exact hloose
    · exact howned

theorem Forest.housed_mapEntries_iff {f : Entry → Entry} (hf : KeepsPlace f) (forest : Forest) :
    (forest.mapEntries f).Housed ↔ forest.Housed := by
  rw [Forest.Housed, Forest.owners_mapEntries hf, Forest.mapEntries_eq_map, List.forall_mem_map]
  simp only [Member.housed_mapEntries_iff hf]
  rfl

theorem Forest.Housed.assignIds {forest : Forest} (h : forest.Housed) (tokens : Nat → String) :
    (forest.assignIds tokens).Housed := by
  have hf : KeepsPlace fun entry => { entry with id := "" } :=
    ⟨fun _ => rfl, fun _ => rfl, fun _ => rfl⟩
  -- With all identities blanked the two forests are the same.
  have hwalk : (forest.assignIds tokens).mapEntries (fun entry => { entry with id := "" })
      = forest.mapEntries fun entry => { entry with id := "" } :=
    Forest.mapEntries_assignIdsFrom (fun _ _ => rfl) tokens [] forest
  rw [← Forest.housed_mapEntries_iff hf, hwalk, Forest.housed_mapEntries_iff hf]
  exact h

theorem Forest.Housed.joinColors {forest : Forest} (h : forest.Housed) (bookmarks : Bookmarks)
    (key : Option String) : (forest.joinColors bookmarks key).Housed := by
  cases key with
  | none => exact h
  | some key =>
    have hf : KeepsPlace fun entry => { entry with colorTag := bookmarks.color? key entry.id } :=
      ⟨fun _ => rfl, fun _ => rfl, fun _ => rfl⟩
    exact (Forest.housed_mapEntries_iff hf forest).2 h

/-- What a mapper lists can still be nested once markers and identities are in. -/
theorem Mapping.housed_identified {mapping : Mapping} (h : mapping.members.Listed)
    (style : MarkerStyle) (source : String) (tokens : Nat → String) :
    (mapping.identified style source tokens).Housed := by
  have hsorted : mapping.members.sortByLine.Housed := (h.perm (Forest.sortByLine_perm _)).housed
  rw [Mapping.identified]
  refine Forest.Housed.assignIds ?_ tokens
  split
  · exact hsorted.spliceWith _ (List.forall_mem_nil _) (style.closes_scan source _).isMark
  · exact hsorted

/-! ## In place -/

/-- A member with everything below it in place: whatever stands in a container has its
child path as an ancestry. -/
inductive Member.InPlace : Member → Prop where
  | plain {entry : Entry} {children : Forest} (hplain : entry.kind.isContainer = false) :
      Member.InPlace (.node entry children)
  | container {entry : Entry} {children : Forest}
      (hparent : ∀ child ∈ children, child.entry.parent = entry.childPath)
      (hbelow : ∀ child ∈ children, child.InPlace) : Member.InPlace (.node entry children)

theorem Member.inPlace_of_plain {member : Member} (h : member.isContainer = false) :
    member.InPlace := by
  cases member with
  | node entry children => exact .plain h

theorem Member.Housed.inPlace {owner : Ancestry → Prop} {member : Member}
    (h : member.Housed owner) : member.InPlace := by
  cases hcontainer : member.isContainer with
  | false => exact Member.inPlace_of_plain hcontainer
  | true =>
    have hchildren := h.children hcontainer
    cases member with
    | node entry children =>
      exact .container (fun child hchild => (hchildren child hchild).2)
        fun child hchild => Member.inPlace_of_plain (hchildren child hchild).1

/-- A container may take in what has its child path as an ancestry. -/
theorem Member.InPlace.join {parent : Member} (h : parent.InPlace)
    (hcontainer : parent.isContainer = true) {others : Forest}
    (hothers : ∀ other ∈ others, other.InPlace ∧ other.entry.parent = parent.entry.childPath) :
    (Member.node parent.entry (Forest.sortByLine (parent.children ++ others))).InPlace := by
  have hmem : ∀ child, child ∈ Forest.sortByLine (parent.children ++ others) →
      child ∈ parent.children ∨ child ∈ others := fun child hchild =>
    List.mem_append.1 ((Forest.sortByLine_perm _).mem_iff.1 hchild)
  cases h with
  | plain hplain =>
    rw [Member.isContainer, Member.entry, hplain] at hcontainer
    cases hcontainer
  | container hparent hbelow =>
    refine .container (fun child hchild => ?_) fun child hchild => ?_
    · exact (hmem child hchild).elim (hparent child) fun h => (hothers child h).2
    · exact (hmem child hchild).elim (hbelow child) fun h => (hothers child h).1

/-! ## Nesting -/

theorem Member.keepsJoining_inPlace : KeepsJoining Member.InPlace := by
  intro parent others hparent hcontainer hothers
  refine hparent.join hcontainer fun other hother => ?_
  obtain ⟨hplace, -, hpath⟩ := hothers other hother
  exact ⟨hplace, hpath⟩

/-- **Nesting leaves nothing behind.** Every member of the nested forest is in place and
stands outside every type. -/
theorem Forest.Housed.nest {forest : Forest} (h : forest.Housed) :
    ∀ member ∈ forest.nest, member.entry.parent.types = [] ∧ member.InPlace := by
  obtain ⟨roots, hnest, hentries, hplace⟩ := Forest.nest_keeping Member.keepsJoining_inPlace
    fun member hmember => (h member hmember).inPlace
  intro member hmember
  rw [hnest] at hmember
  have hroots : member ∈ roots := (Forest.sortByLine_perm _).mem_iff.1 hmember
  refine ⟨?_, hplace member hroots⟩
  -- Adoption keeps entries, so it is enough to look at the roots before it.
  obtain ⟨root, hroot, heq⟩ := exists_mem_of_map_entry hentries hroots
  rw [← heq]
  obtain ⟨hforest, houter⟩ := Forest.mem_outermost.1 hroot
  cases hcontainer : root.isContainer with
  | false => exact (h root hforest).loose hcontainer
  | true =>
    exact ((h root hforest).owned hcontainer).resolve_right fun hin => houter ⟨hcontainer, hin⟩

end SourceOutline
