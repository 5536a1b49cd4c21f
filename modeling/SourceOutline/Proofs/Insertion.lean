/-
Splicing puts markers in and does nothing else.

A forest may hold markers from the start, and one of them may be equal to a marker that is
put in. Which members are new can therefore not be told from the result. It is kept in a
record beside it: in a `Traced` forest each member of the file, and each child of one,
bears the number of the marker it is, if it was put in. Leaving out what bears a number
gives the forest as it was, and `Traced.insertions` lists what was put in and where.

Placing one marker adds one insertion to the record and leaves the rest of it alone
(`Traced.exists_place`). The only condition is that the container a placement names is
there. It always is: the containers of a forest are never touched, and a placement is
found by looking for a container or handed on from an opening marker to its partner.
-/
import SourceOutline.Proofs.LineOrder
import SourceOutline.Proofs.Pairing

set_option autoImplicit false

namespace SourceOutline

open scoped List

/-! ## A record of what was put in -/

/-- Elements in a row, each with the number of the marker it is if it was put in. -/
abbrev Noted (α : Type) := List (Option Nat × α)

namespace Noted

variable {α : Type}

/-- The elements that were there. -/
def kept (row : Noted α) : List α :=
  row.filterMap fun element => if element.1.isNone then some element.2 else none

/-- The elements that were put in, with their numbers. -/
def added (row : Noted α) : List (Nat × α) :=
  row.filterMap fun element => element.1.map fun number => (number, element.2)

/-- A row of which everything was there. -/
def ofList (l : List α) : Noted α := l.map fun a => (none, a)

@[simp] theorem kept_append (first second : Noted α) :
    kept (first ++ second) = kept first ++ kept second := List.filterMap_append

@[simp] theorem kept_none (a : α) (rest : Noted α) : kept ((none, a) :: rest) = a :: kept rest := rfl

@[simp] theorem kept_some (number : Nat) (a : α) (rest : Noted α) :
    kept ((some number, a) :: rest) = kept rest := rfl

@[simp] theorem added_append (first second : Noted α) :
    added (first ++ second) = added first ++ added second := List.filterMap_append

@[simp] theorem added_none (a : α) (rest : Noted α) : added ((none, a) :: rest) = added rest := rfl

@[simp] theorem added_some (number : Nat) (a : α) (rest : Noted α) :
    added ((some number, a) :: rest) = (number, a) :: added rest := rfl

@[simp] theorem map_snd_ofList (l : List α) : (ofList l).map Prod.snd = l := by
  simp [ofList]

@[simp] theorem kept_ofList (l : List α) : kept (ofList l) = l := by
  induction l with
  | nil => rfl
  | cons a l ih => exact congrArg (a :: ·) ih

@[simp] theorem added_ofList (l : List α) : added (ofList l) = [] := by
  induction l with
  | nil => rfl
  | cons a l ih => exact ih

theorem mem_iff {row : Noted α} {a : α} :
    a ∈ row.map Prod.snd ↔ a ∈ kept row ∨ a ∈ (added row).map Prod.snd := by
  induction row with
  | nil => simp [kept, added]
  | cons element rest ih =>
    obtain ⟨note, b⟩ := element
    cases note with
    | none => simp [ih, or_assoc]
    | some number => simp [ih, or_left_comm]

end Noted

/-- A member whose children are told apart. -/
structure TracedMember where
  entry : Entry
  children : Noted Member

/-- The member with all its children. -/
def TracedMember.member (traced : TracedMember) : Member :=
  .node traced.entry (traced.children.map Prod.snd)

/-- The member with the children it had. -/
def TracedMember.before (traced : TracedMember) : Member :=
  .node traced.entry traced.children.kept

/-- A forest with a record of what was put in. -/
abbrev Traced := Noted TracedMember

/-- One marker that was put in. -/
structure Insertion where
  /-- The list of siblings: that of the file, or the children of the member at that position
  of the forest as it was. -/
  level : Option Nat
  /-- The number of the marker. -/
  number : Nat
  marker : Member

namespace Traced

/-- The forest itself. -/
def forest (traced : Traced) : Forest :=
  traced.map fun element => element.2.member

/-- The forest without what was put in. -/
def before (traced : Traced) : Forest :=
  (Noted.kept traced).map TracedMember.before

/-- What was put among the children of a member. -/
def insertionsInside (element : TracedMember × Nat) : List Insertion :=
  element.1.children.added.map fun child => ⟨some element.2, child.1, child.2⟩

/-- What was put in. -/
def insertions (traced : Traced) : List Insertion :=
  (Noted.added traced).map (fun element => ⟨none, element.1, element.2.member⟩)
    ++ (Noted.kept traced).zipIdx.flatMap insertionsInside

/-- A forest into which nothing was put yet. -/
def ofForest (forest : Forest) : Traced :=
  Noted.ofList (forest.map fun member => ⟨member.entry, Noted.ofList member.children⟩)

theorem forest_ofForest (forest : Forest) : (ofForest forest).forest = forest := by
  induction forest with
  | nil => rfl
  | cons member rest ih =>
    obtain ⟨entry, children⟩ := member
    have hmember : TracedMember.member ⟨entry, Noted.ofList children⟩ = .node entry children := by
      simp [TracedMember.member]
    exact congrArg₂ List.cons hmember ih

theorem before_ofForest (forest : Forest) : (ofForest forest).before = forest := by
  unfold before ofForest
  rw [Noted.kept_ofList, List.map_map]
  conv_rhs => rw [← List.map_id forest]
  refine List.map_congr_left ?_
  intro member _
  obtain ⟨entry, children⟩ := member
  simp [TracedMember.before, Member.entry, Member.children]

theorem insertions_ofForest (forest : Forest) : (ofForest forest).insertions = [] := by
  unfold insertions ofForest
  rw [Noted.added_ofList, Noted.kept_ofList, List.map_nil, List.nil_append, List.flatMap_eq_nil_iff]
  intro element helement
  obtain ⟨member, -, hmember⟩ := List.mem_map.1 (List.fst_mem_of_mem_zipIdx helement)
  simp [insertionsInside, ← hmember]

end Traced

/-! ## Where a placement means -/

/-- The place of a marker in a forest as it was. -/
structure Home where
  level : Option Nat
  /-- The ancestry the marker gets there. -/
  path : Ancestry
deriving DecidableEq

/-- Where a placement means. There is no such place if the container is not there. -/
def Forest.home? (forest : Forest) : Placement → Option Home
  | .topLevel path => some ⟨none, path⟩
  | .inside startLine path =>
    (forest.findIdx? (Member.isOwner startLine path)).map fun k => ⟨some k, path⟩

/-- A marker as an insertion. -/
def Home.insertion (home : Home) (number : Nat) (marker : Member) : Insertion :=
  ⟨home.level, number, marker.under home.path⟩

/-- A marker goes between two parts of a list of siblings. -/
theorem Forest.exists_insertByLine (marker : Member) (forest : Forest) :
    ∃ first second, forest = first ++ second
      ∧ forest.insertByLine marker = first ++ marker :: second := by
  induction forest with
  | nil => exact ⟨[], [], rfl, rfl⟩
  | cons member rest ih =>
    rw [Forest.insertByLine]
    by_cases hline : member.startLine ≤ marker.startLine
    · obtain ⟨first, second, hrest, hinsert⟩ := ih
      rw [if_pos hline, hinsert]
      exact ⟨member :: first, second, congrArg _ hrest, rfl⟩
    · rw [if_neg hline]
      exact ⟨[], member :: rest, rfl, rfl⟩

/-- Only the first owner is changed. -/
theorem Forest.insertInside?_append {startLine : Nat} {path : Ancestry} (marker : Member)
    {first : Forest} (hfirst : ∀ member ∈ first, ¬member.isOwner startLine path = true)
    {owner : Member} (howner : owner.isOwner startLine path = true) (second : Forest) :
    Forest.insertInside? startLine path marker (first ++ owner :: second)
      = some (first ++ .node owner.entry
          (Forest.insertByLine (marker.under path) owner.children) :: second) := by
  induction first with
  | nil =>
    rw [List.nil_append, Forest.insertInside?, if_pos howner]
    rfl
  | cons member first ih =>
    obtain ⟨hmember, hrest⟩ := List.forall_mem_cons.1 hfirst
    rw [List.cons_append, Forest.insertInside?, if_neg hmember, ih hrest]
    rfl

/-! ## Placing one marker -/

/-- A row of noted elements, shown as members, with one more in the place where it belongs by
its line. -/
theorem Noted.exists_insertByLine {α : Type} (f : α → Member) (row : Noted α) (a : α) :
    ∃ first second : Noted α, row = first ++ second
      ∧ ∀ number : Nat, Forest.insertByLine (f a) (row.map fun element => f element.2)
        = (first ++ (some number, a) :: second).map fun element => f element.2 := by
  obtain ⟨front, back, hrow, hinsert⟩ :=
    Forest.exists_insertByLine (f a) (row.map fun element => f element.2)
  obtain ⟨first, second, rfl, rfl, rfl⟩ := List.map_eq_append_iff.1 hrow
  refine ⟨first, second, rfl, fun number => ?_⟩
  rw [hinsert]
  simp

/-- The first element of a row that was there and satisfies a condition, provided those that
were put in do not. -/
theorem Noted.exists_first {α : Type} {p : α → Bool} {row : Noted α} {k : Nat}
    (hadded : ∀ element ∈ added row, ¬p element.2 = true)
    (hfirst : (kept row).findIdx? p = some k) :
    ∃ first a second, row = first ++ (none, a) :: second ∧ p a = true
      ∧ (∀ element ∈ first, ¬p element.2 = true) ∧ (kept first).length = k := by
  induction row generalizing k with
  | nil => cases hfirst
  | cons element rest ih =>
    obtain ⟨note, a⟩ := element
    cases note with
    | some number =>
      rw [added_some] at hadded
      obtain ⟨ha, hrest⟩ := List.forall_mem_cons.1 hadded
      rw [kept_some] at hfirst
      obtain ⟨first, b, second, rfl, hb, hothers, hlength⟩ := ih hrest hfirst
      exact ⟨(some number, a) :: first, b, second, rfl, hb, List.forall_mem_cons.2 ⟨ha, hothers⟩,
        hlength⟩
    | none =>
      rw [kept_none, List.findIdx?_cons] at hfirst
      by_cases ha : p a = true
      · rw [if_pos ha] at hfirst
        cases hfirst
        exact ⟨[], a, rest, rfl, ha, List.forall_mem_nil _, rfl⟩
      · rw [if_neg ha] at hfirst
        obtain ⟨k, hk, rfl⟩ := Option.map_eq_some_iff.1 hfirst
        obtain ⟨first, b, second, rfl, hb, hothers, hlength⟩ := ih hadded hk
        exact ⟨(none, a) :: first, b, second, rfl, hb, List.forall_mem_cons.2 ⟨ha, hothers⟩,
          by rw [kept_none, List.length_cons, hlength]⟩

theorem append_perm_cons {α : Type} {a : α} {more rest : List α} (front : List α)
    (h : more ~ a :: rest) : front ++ more ~ a :: (front ++ rest) :=
  (h.append_left front).trans List.perm_middle

namespace Traced

/-- A marker in the file itself. -/
theorem exists_insertByLine (traced : Traced) (number : Nat) (marker : Member) :
    ∃ traced' : Traced, traced'.forest = traced.forest.insertByLine marker
      ∧ traced'.before = traced.before
      ∧ traced'.insertions ~ ⟨none, number, marker⟩ :: traced.insertions := by
  have hmarker : TracedMember.member ⟨marker.entry, Noted.ofList marker.children⟩ = marker := by
    cases marker
    simp [TracedMember.member, Member.entry, Member.children]
  obtain ⟨first, second, rfl, hinsert⟩ := Noted.exists_insertByLine TracedMember.member traced
    ⟨marker.entry, Noted.ofList marker.children⟩
  refine ⟨first ++ (some number, ⟨marker.entry, Noted.ofList marker.children⟩) :: second, ?_, ?_, ?_⟩
  · rw [hmarker] at hinsert
    exact (hinsert number).symm
  · simp [before]
  · simp only [insertions, Noted.added_append, Noted.added_some, Noted.kept_append, Noted.kept_some,
      List.map_append, List.map_cons, hmarker, List.append_assoc, List.cons_append]
    exact List.perm_middle

/-- A marker among the children of a container that was there. -/
theorem exists_insertInside {traced : Traced} {startLine k : Nat} {path : Ancestry}
    (hregions : ∀ element ∈ Noted.added traced, element.2.entry.kind = .region)
    (hk : traced.before.findIdx? (Member.isOwner startLine path) = some k) (number : Nat)
    (marker : Member) :
    ∃ traced' : Traced, traced.forest.insertInside? startLine path marker = some traced'.forest
      ∧ traced'.before = traced.before
      ∧ traced'.insertions ~ ⟨some k, number, marker.under path⟩ :: traced.insertions := by
  -- Which member is an owner can be told from its entry alone, and no region is one.
  have hindex : (Noted.kept traced).findIdx?
      (fun element => element.member.isOwner startLine path) = some k := by
    rw [← hk, before, List.findIdx?_map]
    rfl
  have hadded : ∀ element ∈ Noted.added traced,
      ¬element.2.member.isOwner startLine path = true := by
    intro element helement howner
    exact Member.kind_ne_region_of_isOwner howner (hregions element helement)
  obtain ⟨first, owner, second, rfl, howner, hothers, rfl⟩ := Noted.exists_first hadded hindex
  obtain ⟨front, back, hchildren, hinsert⟩ :=
    Noted.exists_insertByLine id owner.children (marker.under path)
  refine ⟨first ++ (none, ⟨owner.entry, front ++ (some number, marker.under path) :: back⟩) :: second,
    ?_, ?_, ?_⟩
  · simp only [forest, List.map_append, List.map_cons]
    rw [Forest.insertInside?_append marker ?_ howner]
    · exact congrArg (fun children => some (_ ++ Member.node owner.entry children :: _))
        (hinsert number)
    · intro member hmember
      obtain ⟨element, helement, rfl⟩ := List.mem_map.1 hmember
      exact hothers element helement
  · simp [before, TracedMember.before, hchildren]
  · simp only [insertions, Noted.added_append, Noted.added_none, Noted.kept_append, Noted.kept_none,
      List.zipIdx_append, List.zipIdx_cons, List.flatMap_append, List.flatMap_cons, insertionsInside,
      Noted.added_some, List.map_append, List.map_cons, hchildren, Nat.zero_add, List.append_assoc,
      List.cons_append]
    -- It comes among the children of one owner, behind all that is listed before them.
    exact append_perm_cons _ (append_perm_cons _ (append_perm_cons _ List.perm_middle))

/-- What was put in are markers. -/
def Clean (traced : Traced) : Prop :=
  ∀ insertion ∈ traced.insertions, insertion.marker.entry.kind = .region

/-- **Placing one marker** adds it to what was put in, at the place that is meant. -/
theorem exists_place {traced : Traced} (hclean : traced.Clean) {placement : Placement}
    {home : Home} (hhome : traced.before.home? placement = some home) (number : Nat)
    (marker : Member) :
    ∃ traced' : Traced, traced'.forest = traced.forest.place marker placement
      ∧ traced'.before = traced.before
      ∧ traced'.insertions ~ home.insertion number marker :: traced.insertions := by
  cases placement with
  | topLevel path =>
    cases hhome
    exact traced.exists_insertByLine number (marker.under path)
  | inside startLine path =>
    obtain ⟨k, hk, rfl⟩ := Option.map_eq_some_iff.1 hhome
    have hregions : ∀ element ∈ Noted.added traced, element.2.entry.kind = .region := by
      intro element helement
      exact hclean ⟨none, element.1, element.2.member⟩
        (List.mem_append_left _ (List.mem_map_of_mem helement))
    obtain ⟨traced', hforest, hbefore, hinsertions⟩ :=
      exists_insertInside hregions hk number marker
    refine ⟨traced', ?_, hbefore, hinsertions⟩
    rw [Forest.place, hforest]

/-- **Placing markers one after the other.** They are numbered from `start` on. -/
theorem exists_placeAll {forest : Forest} {placements : List Placement} {homes : List Home}
    (hhomes : List.Forall₂ (fun placement home => forest.home? placement = some home)
      placements homes)
    {markers : List Member} (hmarkers : ∀ marker ∈ markers, marker.entry.kind = .region)
    {traced : Traced} (hclean : traced.Clean) (hbefore : traced.before = forest) (start : Nat) :
    ∃ traced' : Traced,
      traced'.forest = (markers.zip placements).foldl (fun forest placed =>
        forest.place placed.1 placed.2) traced.forest
      ∧ traced'.before = forest
      ∧ traced'.insertions ~ ((markers.zip homes).zipIdx start).map (fun placed =>
          placed.1.2.insertion placed.2 placed.1.1) ++ traced.insertions := by
  -- A place means the same in every forest on the way, for the forest as it was stays the same.
  induction hhomes generalizing markers traced start with
  | nil => exact ⟨traced, by simp, hbefore, by simp⟩
  | @cons placement home placements homes hhome _ ih =>
    cases markers with
    | nil => exact ⟨traced, rfl, hbefore, .refl _⟩
    | cons marker markers =>
      obtain ⟨hmarker, hrest⟩ := List.forall_mem_cons.1 hmarkers
      rw [← hbefore] at hhome
      obtain ⟨middle, hforest, hmiddle, hinsertions⟩ :=
        exists_place hclean hhome start marker
      have hcleanMiddle : middle.Clean := by
        intro insertion hinsertion
        rcases List.mem_cons.1 (hinsertions.mem_iff.1 hinsertion) with rfl | hold
        · rw [Home.insertion, Member.entry_under]
          exact hmarker
        · exact hclean insertion hold
      obtain ⟨traced', hforest', hbefore', hinsertions'⟩ :=
        ih hrest hcleanMiddle (hmiddle.trans hbefore) (start + 1)
      refine ⟨traced', by rw [hforest', hforest]; rfl, hbefore', ?_⟩
      refine hinsertions'.trans ((hinsertions.append_left _).trans ?_)
      exact List.perm_middle

end Traced

/-! ## The placements of a run -/

/-- The places that markers get, one after the other. -/
def Forest.placementsWith (spans : List NamespaceSpan) (stack : List Placement)
    (forest : Forest) : List Member → List Placement
  | [] => []
  | marker :: rest =>
    if marker.closesRegion then
      match stack with
      | [] =>
        let place := forest.locate spans marker.startLine
        place :: placementsWith spans [] (forest.place marker place) rest
      | place :: outer => place :: placementsWith spans outer (forest.place marker place) rest
    else
      let place := forest.locate spans marker.startLine
      place :: placementsWith spans (place :: stack) (forest.place marker place) rest

/-- The places that markers get. -/
def Forest.placements (forest : Forest) (spans : List NamespaceSpan) (markers : List Member) :
    List Placement :=
  forest.placementsWith spans [] markers

section Placements

variable (spans : List NamespaceSpan) {marker : Member} (forest : Forest) (rest : List Member)

theorem Forest.placementsWith_open (h : marker.closesRegion = false) (stack : List Placement) :
    forest.placementsWith spans stack (marker :: rest)
      = forest.locate spans marker.startLine
        :: (forest.place marker (forest.locate spans marker.startLine)).placementsWith spans
          (forest.locate spans marker.startLine :: stack) rest := by
  cases stack <;> simp [Forest.placementsWith, h]

theorem Forest.placementsWith_close (h : marker.closesRegion = true) (placement : Placement)
    (outer : List Placement) :
    forest.placementsWith spans (placement :: outer) (marker :: rest)
      = placement :: (forest.place marker placement).placementsWith spans outer rest := by
  simp [Forest.placementsWith, h]

theorem Forest.placementsWith_stray (h : marker.closesRegion = true) :
    forest.placementsWith spans [] (marker :: rest)
      = forest.locate spans marker.startLine
        :: (forest.place marker (forest.locate spans marker.startLine)).placementsWith spans []
          rest := by
  simp [Forest.placementsWith, h]

theorem Forest.spliceWith_stray (h : marker.closesRegion = true) :
    forest.spliceWith spans [] (marker :: rest)
      = (forest.place marker (forest.locate spans marker.startLine)).spliceWith spans [] rest := by
  simp [Forest.spliceWith, h]

end Placements

/-- What happens to one marker: it is located and opens a region, it goes where the region
opened last went, or it is located and closes nothing. -/
theorem Forest.placementsWith_cases (spans : List NamespaceSpan) (stack : List Placement)
    (forest : Forest) (marker : Member) :
    ∃ placement stack', (∀ rest,
        forest.placementsWith spans stack (marker :: rest)
          = placement :: (forest.place marker placement).placementsWith spans stack' rest
        ∧ forest.spliceWith spans stack (marker :: rest)
          = (forest.place marker placement).spliceWith spans stack' rest)
      ∧ (marker.closesRegion = false ∧ placement = forest.locate spans marker.startLine
          ∧ stack' = placement :: stack
        ∨ marker.closesRegion = true ∧ stack = placement :: stack'
        ∨ marker.closesRegion = true ∧ placement = forest.locate spans marker.startLine
          ∧ stack = [] ∧ stack' = []) := by
  cases hside : marker.closesRegion with
  | false =>
    refine ⟨_, _, fun rest => ⟨?_, ?_⟩, .inl ⟨rfl, rfl, rfl⟩⟩
    · exact forest.placementsWith_open spans rest hside stack
    · exact Forest.spliceWith_open hside spans stack forest rest
  | true =>
    cases stack with
    | nil =>
      refine ⟨_, _, fun rest => ⟨?_, ?_⟩, .inr (.inr ⟨rfl, rfl, rfl, rfl⟩)⟩
      · exact forest.placementsWith_stray spans rest hside
      · exact forest.spliceWith_stray spans rest hside
    | cons placement outer =>
      refine ⟨placement, outer, fun rest => ⟨?_, ?_⟩, .inr (.inl ⟨rfl, rfl⟩)⟩
      · exact forest.placementsWith_close spans rest hside placement outer
      · exact Forest.spliceWith_close hside spans placement outer forest rest

theorem Forest.length_placementsWith (spans : List NamespaceSpan) (stack : List Placement)
    (forest : Forest) (markers : List Member) :
    (forest.placementsWith spans stack markers).length = markers.length := by
  induction markers generalizing stack forest with
  | nil => rfl
  | cons marker rest ih =>
    obtain ⟨placement, stack', hstep, -⟩ := forest.placementsWith_cases spans stack marker
    rw [(hstep rest).1, List.length_cons, ih, List.length_cons]

/-- Splicing is placing each marker in the place it gets. -/
theorem Forest.spliceWith_eq_foldl (spans : List NamespaceSpan) (stack : List Placement)
    (forest : Forest) (markers : List Member) :
    forest.spliceWith spans stack markers
      = (markers.zip (forest.placementsWith spans stack markers)).foldl (fun forest placed =>
          forest.place placed.1 placed.2) forest := by
  induction markers generalizing stack forest with
  | nil =>
    rw [Forest.spliceWith]
    rfl
  | cons marker rest ih =>
    obtain ⟨placement, stack', hstep, -⟩ := forest.placementsWith_cases spans stack marker
    rw [(hstep rest).1, (hstep rest).2, ih]
    rfl

theorem Forest.placementsWith_take (spans : List NamespaceSpan) (stack : List Placement)
    (forest : Forest) (markers : List Member) (count : Nat) :
    forest.placementsWith spans stack (markers.take count)
      = (forest.placementsWith spans stack markers).take count := by
  induction markers generalizing stack forest count with
  | nil => simp [Forest.placementsWith]
  | cons marker rest ih =>
    cases count with
    | zero => rfl
    | succ count =>
      obtain ⟨placement, stack', hstep, -⟩ := forest.placementsWith_cases spans stack marker
      rw [List.take_succ_cons, (hstep _).1, (hstep rest).1, ih, List.take_succ_cons]

/-- One more marker. -/
theorem Forest.splice_take_succ {forest : Forest} {spans : List NamespaceSpan}
    {markers : List Member} {i : Nat} {marker : Member} {placement : Placement}
    (hmarker : markers[i]? = some marker)
    (hplacement : (forest.placements spans markers)[i]? = some placement) :
    forest.splice (markers.take (i + 1)) spans
      = (forest.splice (markers.take i) spans).place marker placement := by
  have htake : ∀ count, forest.splice (markers.take count) spans
      = ((markers.zip (forest.placements spans markers)).take count).foldl (fun forest placed =>
          forest.place placed.1 placed.2) forest := by
    intro count
    unfold Forest.splice Forest.placements
    rw [Forest.spliceWith_eq_foldl, Forest.placementsWith_take, List.zip_eq_zipWith,
      List.zip_eq_zipWith, List.take_zipWith]
  have hboth : (markers.zip (forest.placements spans markers))[i]? = some (marker, placement) := by
    rw [List.getElem?_zip_eq_some]
    exact ⟨hmarker, hplacement⟩
  rw [htake, htake, List.take_add_one, hboth, List.foldl_append]
  rfl

/-! ## Every placement has its container -/

theorem Forest.exists_home {forest : Forest} {placement : Placement}
    (h : forest.Settles placement) : ∃ home, forest.home? placement = some home := by
  cases placement with
  | topLevel path => exact ⟨_, rfl⟩
  | inside startLine path =>
    rw [Forest.Settles, Forest.slot, List.findIdx?_isSome, List.any_map, List.any_eq_true] at h
    obtain ⟨owner, howner, hpath⟩ := h
    have hindex : (forest.findIdx? (Member.isOwner startLine path)).isSome = true := by
      rw [List.findIdx?_isSome, List.any_eq_true]
      exact ⟨owner, (List.mem_filter.1 howner).1, hpath⟩
    obtain ⟨k, hk⟩ := Option.isSome_iff_exists.1 hindex
    exact ⟨⟨some k, path⟩, by rw [Forest.home?, hk]; rfl⟩

/-- Settling depends on the hosts of a forest alone. -/
theorem Forest.settles_congr {forest forest' : Forest}
    (h : forest'.hosts.map Member.entry = forest.hosts.map Member.entry) (placement : Placement) :
    forest'.Settles placement ↔ forest.Settles placement := by
  cases placement with
  | topLevel path => exact Iff.rfl
  | inside startLine path => unfold Forest.Settles Forest.slot; rw [h]

/-- The run of a splice keeps the hosts, and finds every container it places a marker in. -/
theorem Forest.settles_placementsWith (spans : List NamespaceSpan) {stack : List Placement}
    {original forest : Forest}
    (hhosts : forest.hosts.map Member.entry = original.hosts.map Member.entry)
    (hstack : ∀ placement ∈ stack, original.Settles placement) {markers : List Member}
    (hmarkers : ∀ marker ∈ markers, marker.entry.kind = .region) :
    (forest.spliceWith spans stack markers).hosts.map Member.entry
        = original.hosts.map Member.entry
      ∧ ∀ placement ∈ forest.placementsWith spans stack markers, original.Settles placement := by
  induction markers generalizing stack forest with
  | nil =>
    rw [Forest.spliceWith]
    exact ⟨hhosts, List.forall_mem_nil _⟩
  | cons marker rest ih =>
    obtain ⟨hmarker, hrest⟩ := List.forall_mem_cons.1 hmarkers
    obtain ⟨placement, stack', hstep, hcases⟩ := forest.placementsWith_cases spans stack marker
    have hlocated : original.Settles (forest.locate spans marker.startLine) :=
      (Forest.settles_congr hhosts _).1 (forest.settles_locate spans marker.startLine)
    -- A placement is located now or taken from the stack, and the stack holds no others.
    have hplacement : original.Settles placement ∧ ∀ other ∈ stack', original.Settles other := by
      rcases hcases with ⟨-, rfl, rfl⟩ | ⟨-, rfl⟩ | ⟨-, rfl, -, rfl⟩
      · exact ⟨hlocated, List.forall_mem_cons.2 ⟨hlocated, hstack⟩⟩
      · exact List.forall_mem_cons.1 hstack
      · exact ⟨hlocated, List.forall_mem_nil _⟩
    have hplaced : (forest.place marker placement).hosts.map Member.entry
        = original.hosts.map Member.entry := by
      rw [Forest.map_entry_hosts_place hmarker
        ((Forest.settles_congr hhosts placement).2 hplacement.1), hhosts]
    obtain ⟨hspliced, hplacements⟩ := ih hplaced hplacement.2 hrest
    rw [(hstep rest).1, (hstep rest).2]
    exact ⟨hspliced, List.forall_mem_cons.2 ⟨hplacement.1, hplacements⟩⟩

theorem Forest.settles_placements (forest : Forest) (spans : List NamespaceSpan)
    {markers : List Member} (hmarkers : ∀ marker ∈ markers, marker.entry.kind = .region) :
    (forest.splice markers spans).hosts.map Member.entry = forest.hosts.map Member.entry
      ∧ ∀ placement ∈ forest.placements spans markers, forest.Settles placement :=
  Forest.settles_placementsWith spans rfl (List.forall_mem_nil _) hmarkers

theorem exists_forall₂ {α β : Type} {r : α → β → Prop} {l : List α}
    (h : ∀ a ∈ l, ∃ b, r a b) : ∃ l', List.Forall₂ r l l' := by
  induction l with
  | nil => exact ⟨[], .nil⟩
  | cons a l ih =>
    obtain ⟨⟨b, hb⟩, hl⟩ := List.forall_mem_cons.1 h
    obtain ⟨l', hl'⟩ := ih hl
    exact ⟨b :: l', .cons hb hl'⟩

theorem exists_of_forall₂_getElem? {α β : Type} {r : α → β → Prop} {l : List α} {l' : List β}
    (h : List.Forall₂ r l l') {i : Nat} {a : α} (ha : l[i]? = some a) :
    ∃ b, l'[i]? = some b ∧ r a b := by
  obtain ⟨hlt, rfl⟩ := List.getElem?_eq_some_iff.1 ha
  have hlt' : i < l'.length := h.length_eq ▸ hlt
  exact ⟨l'[i], List.getElem?_eq_getElem hlt', h.get hlt hlt'⟩

/-! ## Pairs -/

/-- The side of a region that splicing takes a marker for. -/
def Member.side (member : Member) : Boundary :=
  if member.closesRegion then .stop else .start

/-- Sides with placements that are handed on through a stack. -/
inductive Stacking : List Placement → List (Boundary × Placement) → Prop where
  | done {stack : List Placement} : Stacking stack []
  | opens {stack : List Placement} {placement : Placement} {rest : List (Boundary × Placement)}
      (hrest : Stacking (placement :: stack) rest) : Stacking stack ((.start, placement) :: rest)
  | closes {outer : List Placement} {placement : Placement} {rest : List (Boundary × Placement)}
      (hrest : Stacking outer rest) : Stacking (placement :: outer) ((.stop, placement) :: rest)
  | stray {placement : Placement} {rest : List (Boundary × Placement)}
      (hrest : Stacking [] rest) : Stacking [] ((.stop, placement) :: rest)

theorem Forest.stacking_placementsWith (spans : List NamespaceSpan) (stack : List Placement)
    (forest : Forest) (markers : List Member) :
    Stacking stack ((markers.map Member.side).zip (forest.placementsWith spans stack markers)) := by
  induction markers generalizing stack forest with
  | nil => exact .done
  | cons marker rest ih =>
    obtain ⟨placement, stack', hstep, hcases⟩ := forest.placementsWith_cases spans stack marker
    have hrest := ih stack' (forest.place marker placement)
    rw [(hstep rest).1, List.map_cons, List.zip_cons_cons]
    rcases hcases with ⟨hside, -, rfl⟩ | ⟨hside, rfl⟩ | ⟨hside, -, rfl, rfl⟩
    · have hstart : marker.side = .start := by simp [Member.side, hside]
      rw [hstart]
      exact .opens hrest
    · have hstop : marker.side = .stop := by simp [Member.side, hside]
      rw [hstop]
      exact .closes hrest
    · have hstop : marker.side = .stop := by simp [Member.side, hside]
      rw [hstop]
      exact .stray hrest

theorem Stacking.drop {stack : List Placement} {first second : List (Boundary × Placement)}
    (h : Stacking stack (first ++ second)) : ∃ stack', Stacking stack' second := by
  induction first generalizing stack with
  | nil => exact ⟨stack, h⟩
  | cons element first ih =>
    cases h with
    | opens hrest => exact ih hrest
    | closes hrest => exact ih hrest
    | stray hrest => exact ih hrest

/-- Nested regions leave the stack as they find it. -/
theorem Stacking.skip {sides : List Boundary} (hsides : Nested sides) :
    ∀ {stack : List Placement} {first second : List (Boundary × Placement)},
      first.map Prod.fst = sides → Stacking stack (first ++ second) → Stacking stack second := by
  induction hsides with
  | nil =>
    intro stack first second hfirst h
    rw [List.map_eq_nil_iff.1 hfirst] at h
    exact h
  | region _ _ ihinner ihrest =>
    intro stack first second hfirst h
    rw [List.cons_append] at hfirst
    obtain ⟨⟨_, placement⟩, others, rfl, rfl, hothers⟩ := List.map_eq_cons_iff.1 hfirst
    obtain ⟨inner, more, rfl, hinner, hmore⟩ := List.map_eq_append_iff.1 hothers
    obtain ⟨⟨_, placement'⟩, rest, rfl, rfl, hrest⟩ := List.map_eq_cons_iff.1 hmore
    rw [List.cons_append, List.append_assoc, List.cons_append] at h
    cases h with
    | opens hinside =>
      have hstop := ihinner hinner hinside
      cases hstop with
      | closes houter => exact ihrest hrest houter

/-- A list around two of its positions. -/
theorem eq_append_of_getElem? {α : Type} {l : List α} {i j : Nat} {a b : α} (hij : i < j)
    (hi : l[i]? = some a) (hj : l[j]? = some b) :
    l = l.take i ++ a :: ((l.take j).drop (i + 1) ++ b :: l.drop (j + 1)) := by
  obtain ⟨hlt, rfl⟩ := List.getElem?_eq_some_iff.1 hi
  obtain ⟨hlt', rfl⟩ := List.getElem?_eq_some_iff.1 hj
  have hback : l.drop (i + 1) = (l.take j).drop (i + 1) ++ l[j] :: l.drop (j + 1) := by
    rw [← List.drop_eq_getElem_cons hlt', ← List.drop_append_of_le_length (by simp; omega),
      List.take_append_drop]
  rw [← hback, ← List.drop_eq_getElem_cons hlt, List.take_append_drop]

/-- A marker that closes a region goes where the one went that opens it. -/
theorem Forest.placements_matched (forest : Forest) (spans : List NamespaceSpan)
    {markers : List Member} {i j : Nat}
    (h : Matched (markers.map fun marker => some marker.side) i j) :
    ∃ placement, (forest.placements spans markers)[i]? = some placement
      ∧ (forest.placements spans markers)[j]? = some placement := by
  have hstacking := forest.stacking_placementsWith spans [] markers
  have hlength := forest.length_placementsWith spans [] markers
  change (forest.placements spans markers).length = markers.length at hlength
  change Stacking [] ((markers.map Member.side).zip (forest.placements spans markers)) at hstacking
  generalize forest.placements spans markers = placements at hstacking hlength
  have hsome : markers.map (fun marker => some marker.side)
      = (markers.map Member.side).map some := by simp
  obtain ⟨hij, hopens, hcloses, hbetween⟩ := h
  rw [hsome, List.getElem?_map, Option.map_eq_some_iff] at hopens hcloses
  obtain ⟨_, hopens, hstart⟩ := hopens
  obtain ⟨_, hcloses, hstop⟩ := hcloses
  cases hstart
  cases hstop
  have hlengthSides : (markers.map Member.side).length = placements.length := by
    rw [List.length_map, hlength]
  -- The pairs of sides and placements, around the two positions.
  have hat : ∀ {k : Nat} {side : Boundary}, (markers.map Member.side)[k]? = some side →
      ∃ placement, placements[k]? = some placement
        ∧ ((markers.map Member.side).zip placements)[k]? = some (side, placement) := by
    intro k side hk
    obtain ⟨hlt, -⟩ := List.getElem?_eq_some_iff.1 hk
    have hplacement := List.getElem?_eq_getElem (hlengthSides ▸ hlt)
    exact ⟨_, hplacement, List.getElem?_zip_eq_some.2 ⟨hk, hplacement⟩⟩
  obtain ⟨placement, hplacement, hi⟩ := hat hopens
  obtain ⟨placement', hplacement', hj⟩ := hat hcloses
  rw [eq_append_of_getElem? hij hi hj] at hstacking
  obtain ⟨stack, hrest⟩ := hstacking.drop
  have hnested : ((((markers.map Member.side).zip placements).take j).drop (i + 1)).map Prod.fst
      = ((((markers.map Member.side).map some).take j).drop (i + 1)).filterMap id := by
    rw [← List.map_take, ← List.map_drop, List.filterMap_map, Function.id_comp, List.filterMap_some,
      List.map_drop, List.map_take, List.map_fst_zip (Nat.le_of_eq hlengthSides)]
  cases hrest with
  | opens hinside =>
    have hclosing := hinside.skip (hsome ▸ hbetween) hnested
    cases hclosing with
    | closes => exact ⟨placement, hplacement, hplacement'⟩

/-! ## The order of lines -/

/-- A member in which the list below every other one is in the order of lines. -/
inductive Member.Ordered : Member → Prop where
  | node {entry : Entry} {children : Forest} (hordered : children.InLineOrder)
      (hbelow : ∀ child ∈ children, child.Ordered) : Member.Ordered (.node entry children)

/-- A forest in which every list is in the order of lines, whatever it stands below. -/
structure Forest.Ordered (forest : Forest) : Prop where
  level : forest.InLineOrder
  below : ∀ member ∈ forest, member.Ordered

theorem Member.ordered_iff {entry : Entry} {children : Forest} :
    (Member.node entry children).Ordered ↔ children.Ordered := by
  constructor
  · rintro ⟨hordered, hbelow⟩
    exact ⟨hordered, hbelow⟩
  · rintro ⟨hordered, hbelow⟩
    exact .node hordered hbelow

theorem Member.Ordered.under {member : Member} (h : member.Ordered) (path : Ancestry) :
    (member.under path).Ordered := by
  cases h with
  | node hordered hbelow => exact .node hordered hbelow

theorem Forest.Ordered.insertByLine {forest : Forest} (h : forest.Ordered) {marker : Member}
    (hmarker : marker.Ordered) : (forest.insertByLine marker).Ordered := by
  refine ⟨h.level.insertByLine marker, ?_⟩
  intro member hmember
  rcases Forest.mem_insertByLine.1 hmember with rfl | hold
  · exact hmarker
  · exact h.below member hold

theorem Forest.Ordered.place {forest : Forest} (h : forest.Ordered) {marker : Member}
    (hmarker : marker.Ordered) (placement : Placement) :
    (forest.place marker placement).Ordered := by
  refine ⟨h.level.place marker placement, ?_⟩
  intro member hmember
  rcases Forest.mem_place hmember with ⟨path, rfl⟩ | hold | ⟨⟨entry, children⟩, hhost, path, rfl⟩
  · exact hmarker.under path
  · exact h.below member hold
  · have hchildren := Member.ordered_iff.1 (h.below _ hhost)
    exact Member.ordered_iff.2 (hchildren.insertByLine (hmarker.under path))

/-! ## Splicing -/

/-- Markers as insertions, each in its place. -/
def insertionsAt (markers : List Member) (homes : List Home) : List Insertion :=
  (markers.zip homes).zipIdx.map fun placed => placed.1.2.insertion placed.2 placed.1.1

/-- The places of the markers in the forest as it was, and a record of what splicing does. -/
theorem Forest.exists_homes (forest : Forest) (spans : List NamespaceSpan) {markers : List Member}
    (hmarkers : ∀ marker ∈ markers, marker.entry.kind = .region) :
    ∃ homes, List.Forall₂ (fun placement home => forest.home? placement = some home)
        (forest.placements spans markers) homes
      ∧ ∃ traced : Traced, traced.forest = forest.splice markers spans ∧ traced.before = forest
        ∧ traced.insertions ~ insertionsAt markers homes := by
  obtain ⟨-, hsettles⟩ := forest.settles_placements spans hmarkers
  obtain ⟨homes, hhomes⟩ := exists_forall₂ fun placement hplacement =>
    Forest.exists_home (hsettles placement hplacement)
  have hempty := Traced.insertions_ofForest forest
  have hclean : (Traced.ofForest forest).Clean := by
    intro insertion hinsertion
    rw [hempty] at hinsertion
    cases hinsertion
  obtain ⟨traced, hforest, hbefore, hinsertions⟩ :=
    Traced.exists_placeAll hhomes hmarkers hclean (Traced.before_ofForest forest) 0
  rw [Traced.forest_ofForest] at hforest
  rw [hempty, List.append_nil] at hinsertions
  have hsplice : traced.forest = forest.splice markers spans := by
    rw [hforest, Forest.splice, Forest.spliceWith_eq_foldl, Forest.placements]
  exact ⟨homes, hhomes, traced, hsplice, hbefore, hinsertions⟩

/-- When a marker comes, the container it goes into is found. -/
theorem Forest.insertInside?_splice_take (forest : Forest) (spans : List NamespaceSpan)
    {markers : List Member} (hmarkers : ∀ marker ∈ markers, marker.entry.kind = .region)
    {i startLine : Nat} {path : Ancestry} {marker : Member} (hmarker : markers[i]? = some marker)
    (hplacement : (forest.placements spans markers)[i]? = some (.inside startLine path)) :
    (forest.splice (markers.take i) spans).insertInside? startLine path marker
      = some (forest.splice (markers.take (i + 1)) spans) := by
  obtain ⟨-, hsettles⟩ := forest.settles_placements spans hmarkers
  obtain ⟨hhosts, -⟩ := forest.settles_placements spans fun marker hmem =>
    hmarkers marker (List.mem_of_mem_take hmem)
  have hsettled := (Forest.settles_congr hhosts _).2 (hsettles _ (List.mem_of_getElem? hplacement))
  obtain ⟨k, hk⟩ := Option.isSome_iff_exists.1 hsettled
  obtain ⟨forest', hinsert, -, -⟩ := Forest.insertInside?_eq marker hk
  rw [Forest.splice_take_succ hmarker hplacement, Forest.place, hinsert]

/-- Splicing that only inserts markers, each in a place of the forest as it was. -/
structure Forest.OnlyInserts (forest : Forest) (markers : List Member)
    (spans : List NamespaceSpan) (homes : List Home) : Prop where
  each : homes.length = markers.length
  /-- The places are those that splicing gives to the markers one after the other. -/
  places : List.Forall₂ (fun placement home => forest.home? placement = some home)
    (forest.placements spans markers) homes
  /-- The result holds every marker once, in its place and with the ancestry of that place.
  Without the markers it is the forest as it was. -/
  inserted : ∃ traced : Traced, traced.forest = forest.splice markers spans
    ∧ traced.before = forest ∧ traced.insertions ~ insertionsAt markers homes
  /-- The markers that open and close a region go to one place. -/
  partners : ∀ i j, Matched (markers.map fun marker => some marker.side) i j →
    ∃ home, homes[i]? = some home ∧ homes[j]? = some home
  /-- A container that is to take a marker in is there when the marker comes, so no marker
  ever falls back to the file itself. -/
  found : ∀ i marker startLine path, markers[i]? = some marker →
    (forest.placements spans markers)[i]? = some (.inside startLine path) →
    (forest.splice (markers.take i) spans).insertInside? startLine path marker
      = some (forest.splice (markers.take (i + 1)) spans)
  /-- Lists that are in the order of lines stay so. -/
  ordered : forest.Ordered → (∀ marker ∈ markers, marker.Ordered) →
    (forest.splice markers spans).Ordered

/-- **Splicing only inserts**, whatever the forest holds and however the markers are arranged. -/
theorem splice_only_inserts (forest : Forest) (spans : List NamespaceSpan) {markers : List Member}
    (hmarkers : ∀ marker ∈ markers, marker.entry.kind = .region) :
    ∃ homes, forest.OnlyInserts markers spans homes := by
  obtain ⟨homes, hhomes, hinserted⟩ := forest.exists_homes spans hmarkers
  refine ⟨homes, ?_, hhomes, hinserted, ?_, ?_, ?_⟩
  · rw [← hhomes.length_eq]
    exact forest.length_placementsWith spans [] markers
  · intro i j hmatched
    obtain ⟨placement, hi, hj⟩ := forest.placements_matched spans hmatched
    obtain ⟨home, hihome, hhome⟩ := exists_of_forall₂_getElem? hhomes hi
    obtain ⟨home', hjhome, hhome'⟩ := exists_of_forall₂_getElem? hhomes hj
    have heq : home = home' := Option.some.inj (hhome.symm.trans hhome')
    exact ⟨home, hihome, heq ▸ hjhome⟩
  · intro i marker startLine path hmarker hplacement
    exact forest.insertInside?_splice_take spans hmarkers hmarker hplacement
  · intro hordered hmarkersOrdered
    exact Forest.spliceWith_keeps (fun hforest hmarker => hforest.place hmarker) spans [] hordered
      hmarkersOrdered

/-- Two containers that a place cannot tell apart, a marker that is there already, an end that
closes nothing, and a region that ends behind its container. -/
theorem splice_only_inserts_beside_equal_marker :
    let path : Ancestry := { types := ["A"] }
    let mark := fun (boundary : Boundary) (name : String) (line : Nat) =>
      Member.ofMarker ⟨boundary, name, 0⟩ line 0
    let forest : Forest := [
      .node { kind := .classType, name := "A", startLine := 0, endLine := some 9 } [
        (mark .start "X" 2).under path,
        .leaf { kind := .method, name := "f", startLine := 4, parent := path }],
      .node { kind := .classType, name := "A", startLine := 0, endLine := some 9, column := 20 } []]
    let markers := [mark .stop "Z" 1, mark .start "X" 2, mark .stop "X" 11]
    (forest.splice markers []).map (fun member =>
        member.children.map fun child => (child.entry.title, child.startLine, child.entry.parent))
      = [[("</Z>", 1, path), ("<X>", 2, path), ("<X>", 2, path), ("f", 4, path),
          ("</X>", 11, path)], []]
    ∧ (∀ marker ∈ markers, marker.entry.kind = .region)
    ∧ Matched (markers.map fun marker => some marker.side) 1 2
    ∧ ∃ homes, forest.OnlyInserts markers [] homes
      ∧ ∃ home, homes[1]? = some home ∧ homes[2]? = some home := by
  intro path mark forest markers
  have hkind : ∀ marker ∈ markers, marker.entry.kind = .region := by decide +kernel
  have hmatched : Matched (markers.map fun marker => some marker.side) 1 2 :=
    ⟨by decide, rfl, rfl, .nil⟩
  obtain ⟨homes, hhomes⟩ := splice_only_inserts forest [] hkind
  exact ⟨by decide +kernel, hkind, hmatched, homes, hhomes, hhomes.partners 1 2 hmatched⟩

end SourceOutline
