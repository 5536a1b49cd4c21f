/-
What a key tells about where a member is declared.

The ancestry of a member goes into its key as a text, the namespaces first and then the types,
with full stops between segments and a bar between the two groups. If no segment is empty or has
one of these signs in it, then the segments can be read back from a group, and the bar shows
where the one group ends and the other begins.

There is a bar only between two groups. An ancestry that has one group renders as that group
alone, whichever it is, so the namespaces of one member can look like the types of another
(`render_eq_iff`). A container does not suffer from that: what is declared inside has a type for
an ancestor, and the key of the container is the rendering of that ancestry, bar and all
(`container_key_names_ancestry`). A region marker has the rendering of its own ancestry in front
of its key, and there one group is taken for the other (`region_key_shared_by_two_groups`).
-/
import SourceOutline.Member.Identity
import SourceOutline.Proofs.Identifiers

set_option autoImplicit false

namespace SourceOutline

/-! ## Segments -/

/-- A segment that can be told from the signs around it. -/
def ClearSegment (segment : String) : Prop :=
  segment ≠ "" ∧ '.' ∉ segment.toList ∧ '|' ∉ segment.toList

instance : DecidablePred ClearSegment :=
  fun _ => inferInstanceAs (Decidable (_ ∧ _ ∧ _))

theorem segmentsOf_joinTexts_of_clear {segments : List String} (hne : segments ≠ [])
    (h : ∀ segment ∈ segments, ClearSegment segment) :
    LineScan.segmentsOf (joinTexts "." segments) = segments :=
  LineScan.segmentsOf_joinTexts hne fun segment hsegment => (h segment hsegment).2.1

theorem joinTexts_eq_empty_iff {segments : List String}
    (h : ∀ segment ∈ segments, ClearSegment segment) :
    joinTexts "." segments = "" ↔ segments = [] := by
  constructor
  · intro hempty
    by_contra hne
    have hread := segmentsOf_joinTexts_of_clear hne h
    rw [hempty, show LineScan.segmentsOf "" = [""] by decide] at hread
    have hclear := h "" (hread ▸ List.mem_singleton_self "")
    exact hclear.1 rfl
  · rintro rfl
    rfl

/-- A group is known from its text. -/
theorem joinTexts_inj {first second : List String}
    (hfirst : ∀ segment ∈ first, ClearSegment segment)
    (hsecond : ∀ segment ∈ second, ClearSegment segment)
    (h : joinTexts "." first = joinTexts "." second) : first = second := by
  by_cases hnil : first = []
  · rw [(joinTexts_eq_empty_iff hfirst).2 hnil] at h
    rw [hnil, (joinTexts_eq_empty_iff hsecond).1 h.symm]
  · have hnil' : second ≠ [] := by
      rintro rfl
      exact hnil ((joinTexts_eq_empty_iff hfirst).1 h)
    rw [← segmentsOf_joinTexts_of_clear hnil hfirst, h, segmentsOf_joinTexts_of_clear hnil' hsecond]

/-- What is in no segment is not in their text either, full stops apart. -/
theorem not_mem_joinTexts {c : Char} (hc : c ≠ '.') {segments : List String}
    (h : ∀ segment ∈ segments, c ∉ segment.toList) : c ∉ (joinTexts "." segments).toList := by
  induction segments with
  | nil => simp [joinTexts]
  | cons segment rest ih =>
    obtain ⟨hsegment, hrest⟩ := List.forall_mem_cons.1 h
    cases rest with
    | nil => exact hsegment
    | cons next others =>
      rw [joinTexts_cons_cons, String.toList_append, String.toList_append]
      simp only [List.mem_append, not_or]
      exact ⟨⟨hsegment, by simpa using hc⟩, ih hrest⟩

namespace Ancestry

/-! ## Renderings -/

/-- An ancestry whose segments can be told from the signs around them. -/
def Clear (path : Ancestry) : Prop :=
  ∀ segment ∈ path.namespaces ++ path.types, ClearSegment segment

instance : DecidablePred Clear := fun path =>
  inferInstanceAs (Decidable (∀ segment ∈ path.namespaces ++ path.types, ClearSegment segment))

theorem Clear.namespaces {path : Ancestry} (h : path.Clear) :
    ∀ segment ∈ path.namespaces, ClearSegment segment :=
  (List.forall_mem_append.1 h).1

theorem Clear.types {path : Ancestry} (h : path.Clear) :
    ∀ segment ∈ path.types, ClearSegment segment :=
  (List.forall_mem_append.1 h).2

/-- An ancestry with namespaces only, or with types only, or with neither. -/
def OneGroup (path : Ancestry) : Prop := path.namespaces = [] ∨ path.types = []

instance : DecidablePred OneGroup := fun _ => inferInstanceAs (Decidable (_ ∨ _))

/-- The ancestry whose namespaces are the types of this one, and the other way round. -/
def swapped (path : Ancestry) : Ancestry :=
  { namespaces := path.types, types := path.namespaces }

theorem render_of_oneGroup {path : Ancestry} (h : path.OneGroup) :
    path.render = joinTexts "." (path.namespaces ++ path.types) := by
  have hnone : (joinTexts "." []).isEmpty = true := by decide
  unfold render
  rcases h with hnamespaces | htypes
  · rw [hnamespaces, List.nil_append]
    exact if_pos hnone
  · rw [htypes, List.append_nil]
    dsimp only
    rw [if_pos hnone]
    split
    · rename_i hempty
      rw [String.isEmpty_iff.1 hempty]
      rfl
    · rfl

theorem render_of_twoGroups {path : Ancestry} (hclear : path.Clear) (h : ¬path.OneGroup) :
    path.render = joinTexts "." path.namespaces ++ "|" ++ joinTexts "." path.types := by
  obtain ⟨hnamespaces, htypes⟩ := not_or.1 h
  have hleft : (joinTexts "." path.namespaces).isEmpty = false := by
    simpa using mt (joinTexts_eq_empty_iff hclear.namespaces).1 hnamespaces
  have hright : (joinTexts "." path.types).isEmpty = false := by
    simpa using mt (joinTexts_eq_empty_iff hclear.types).1 htypes
  unfold render
  dsimp only
  rw [if_neg (by simp [hleft]), if_neg (by simp [hright])]

/-- The bar shows that there are two groups. -/
theorem bar_mem_render_iff {path : Ancestry} (h : path.Clear) :
    '|' ∈ path.render.toList ↔ ¬path.OneGroup := by
  constructor
  · intro hbar hone
    rw [render_of_oneGroup hone] at hbar
    exact not_mem_joinTexts (by decide) (fun segment hsegment => (h segment hsegment).2.2) hbar
  · intro htwo
    rw [render_of_twoGroups h htwo]
    simp

theorem oneGroup_iff_of_render_eq {first second : Ancestry} (hfirst : first.Clear)
    (hsecond : second.Clear) (h : first.render = second.render) :
    first.OneGroup ↔ second.OneGroup := by
  rw [← not_iff_not, ← bar_mem_render_iff hfirst, h, bar_mem_render_iff hsecond]

/-- The bar cuts two groups apart, so both can be read. -/
theorem eq_of_render_eq {first second : Ancestry} (hfirst : first.Clear) (hsecond : second.Clear)
    (htwo : ¬second.OneGroup) (h : first.render = second.render) : first = second := by
  have htwo' : ¬first.OneGroup := mt (oneGroup_iff_of_render_eq hfirst hsecond h).1 htwo
  have hbar : ∀ {path : Ancestry}, path.Clear → '|' ∉ (joinTexts "." path.namespaces).toList :=
    fun hpath => not_mem_joinTexts (by decide) fun segment hsegment =>
      (hpath.namespaces segment hsegment).2.2
  rw [render_of_twoGroups hfirst htwo', render_of_twoGroups hsecond htwo] at h
  have hchars := congrArg String.toList h
  simp only [String.toList_append, List.append_assoc] at hchars
  obtain ⟨hleft, -, hright⟩ := append_cons_inj (hbar hsecond) (hbar hfirst) hchars
  have hnamespaces := joinTexts_inj hfirst.namespaces hsecond.namespaces (String.toList_inj.1 hleft)
  have htypes := joinTexts_inj hfirst.types hsecond.types (String.toList_inj.1 hright)
  obtain ⟨namespaces, types⟩ := first
  exact congrArg₂ Ancestry.mk hnamespaces htypes

/-- Of one group the segments can be read, but they may be namespaces here and types there. -/
theorem eq_or_eq_swapped_of_render_eq {first second : Ancestry} (hfirst : first.Clear)
    (hsecond : second.Clear) (hone : second.OneGroup) (h : first.render = second.render) :
    first = second ∨ first = second.swapped := by
  have hone' := (oneGroup_iff_of_render_eq hfirst hsecond h).2 hone
  rw [render_of_oneGroup hone, render_of_oneGroup hone'] at h
  have hsegments := joinTexts_inj hfirst hsecond h
  obtain ⟨namespaces, types⟩ := first
  obtain ⟨namespaces', types'⟩ := second
  unfold OneGroup at hone hone'
  unfold swapped
  rcases hone with rfl | rfl <;> rcases hone' with rfl | rfl <;> simp_all

theorem render_swapped {path : Ancestry} (h : path.OneGroup) :
    path.swapped.render = path.render := by
  have hswapped : path.swapped.OneGroup := h.symm
  rw [render_of_oneGroup h, render_of_oneGroup hswapped]
  unfold swapped
  rcases h with hnone | hnone <;> simp [hnone]

/-- **What a rendering tells.** It tells the ancestry, except that of one group it does not tell
which one it is. -/
theorem render_eq_iff {first second : Ancestry} (hfirst : first.Clear) (hsecond : second.Clear) :
    first.render = second.render
      ↔ first = second ∨ second.OneGroup ∧ first = second.swapped := by
  constructor
  · intro h
    by_cases hone : second.OneGroup
    · exact (eq_or_eq_swapped_of_render_eq hfirst hsecond hone h).imp id fun hswapped =>
        ⟨hone, hswapped⟩
    · exact .inl (eq_of_render_eq hfirst hsecond hone h)
  · rintro (rfl | ⟨hone, rfl⟩)
    · rfl
    · exact render_swapped hone

/-! ## Containers -/

theorem joinTexts_concat {segments : List String} (h : segments ≠ []) (last : String) :
    joinTexts "." (segments ++ [last]) = joinTexts "." segments ++ "." ++ last :=
  joinTexts_append "." h (List.cons_ne_nil last [])

/-- The key of a container is built in three cases and the rendering of what is inside in three
others. They come to the same text. -/
theorem containerKey_eq_render_child {path : Ancestry} {name : String}
    (h : (path.child name).Clear) : path.containerKey name = (path.child name).render := by
  have hpath : path.Clear := by
    intro segment hsegment
    refine h segment ?_
    unfold child
    rw [← List.append_assoc]
    exact List.mem_append_left _ hsegment
  have htypes : (path.child name).types ≠ [] := by simp [child]
  unfold containerKey
  split
  · -- A container of the file itself is its own rendering.
    rename_i hroot
    have hnone : path.namespaces = [] ∧ path.types = [] := by simpa [isRoot] using hroot
    have hone : (path.child name).OneGroup := .inl hnone.1
    rw [render_of_oneGroup hone]
    unfold child
    rw [hnone.1, hnone.2]
    rfl
  · rename_i hroot
    split
    · -- One of a namespace begins the second group.
      rename_i hnone
      have hnone : path.types = [] := by simpa using hnone
      have hnamespaces : path.namespaces ≠ [] := by
        intro hempty
        exact hroot (by simp [isRoot, hempty, hnone])
      have htwo : ¬(path.child name).OneGroup := not_or.2 ⟨hnamespaces, htypes⟩
      rw [render_of_twoGroups h htwo, render_of_oneGroup (.inr hnone)]
      unfold child
      rw [hnone, List.append_nil]
      rfl
    · -- One of a type goes on with the last group there is.
      rename_i hsome
      have hsome : path.types ≠ [] := by simpa using hsome
      by_cases hnamespaces : path.namespaces = []
      · have hone : (path.child name).OneGroup := .inl hnamespaces
        rw [render_of_oneGroup hone, render_of_oneGroup (.inl hnamespaces)]
        unfold child
        rw [hnamespaces, List.nil_append, List.nil_append, joinTexts_concat hsome]
      · have htwo : ¬(path.child name).OneGroup := not_or.2 ⟨hnamespaces, htypes⟩
        have htwo' : ¬path.OneGroup := not_or.2 ⟨hnamespaces, hsome⟩
        rw [render_of_twoGroups h htwo, render_of_twoGroups hpath htwo']
        unfold child
        rw [joinTexts_concat hsome]
        simp only [String.append_assoc]

/-- What is declared inside a type is never taken for what is declared in a namespace. -/
theorem render_child_inj {first second : Ancestry} {name name' : String}
    (hfirst : (first.child name).Clear) (hsecond : (second.child name').Clear) :
    (first.child name).render = (second.child name').render
      ↔ first.child name = second.child name' := by
  rw [render_eq_iff hfirst hsecond, or_iff_left]
  rintro ⟨hone, hswapped⟩
  have hnamespaces : second.namespaces = [] := hone.resolve_right (by simp [child])
  have htypes := congrArg types hswapped
  unfold swapped child at htypes
  rw [hnamespaces] at htypes
  simp at htypes

end Ancestry

theorem Entry.key_of_container {entry : Entry} (h : entry.kind.isContainer = true) :
    entry.key = entry.parent.containerKey entry.name := by
  unfold Entry.key
  split <;> simp_all [Kind.isContainer]

/-- **The key of a container.** It is the rendering of the ancestry of what is declared inside,
and no two containers share it but those of one name, one list of types and one list of
namespaces. -/
theorem container_key_names_ancestry {first : Entry} (hfirst : first.kind.isContainer = true)
    (hclear : first.childPath.Clear) :
    first.key = first.childPath.render
      ∧ ∀ second : Entry, second.kind.isContainer = true → second.childPath.Clear →
        (first.key = second.key ↔ first.parent = second.parent ∧ first.name = second.name) := by
  have hkey : ∀ {entry : Entry}, entry.kind.isContainer = true → entry.childPath.Clear →
      entry.key = entry.childPath.render := by
    intro entry hcontainer hpath
    rw [Entry.key_of_container hcontainer]
    exact Ancestry.containerKey_eq_render_child hpath
  refine ⟨hkey hfirst hclear, fun second hsecond hclear' => ?_⟩
  rw [hkey hfirst hclear, hkey hsecond hclear']
  unfold Entry.childPath at hclear hclear' ⊢
  rw [Ancestry.render_child_inj hclear hclear', Ancestry.child_inj]

/-- A class in a class of a namespace, and one in the second of two namespaces. -/
theorem container_key_names_ancestry_of_nested_class :
    let inner : Entry :=
      { kind := .classType, name := "B", startLine := 2,
        parent := { namespaces := ["App"], types := ["A"] } }
    let other : Entry :=
      { kind := .structType, name := "B", startLine := 6,
        parent := { namespaces := ["App", "A"] } }
    inner.childPath.Clear ∧ other.childPath.Clear
      ∧ inner.key = "App|A.B" ∧ other.key = "App.A|B" ∧ inner.key ≠ other.key := by
  intro inner other
  have hinner : inner.childPath.Clear := by decide
  have hother : other.childPath.Clear := by decide
  have hnames := @container_key_names_ancestry inner rfl hinner
  refine ⟨hinner, hother, hnames.1, by decide, ?_⟩
  intro hsame
  have hparent := ((hnames.2 other rfl hother).1 hsame).1
  exact absurd hparent (by decide)

/-! ## Region markers -/

/-- The side of a region that an entry marks. Without a marker it counts as the start. -/
def Entry.boundary (entry : Entry) : Boundary :=
  (entry.region.map Marker.boundary).getD .start

/-- A region marker with a name without blanks around it, under segments that can be told from the
signs of a key. -/
structure Entry.ClearRegion (entry : Entry) : Prop where
  kind : entry.kind = .region
  path : entry.parent.Clear
  unmarked : ∀ segment ∈ entry.parent.namespaces ++ entry.parent.types, '#' ∉ segment.toList
  trimmed : Text.trim entry.name.toList = entry.name.toList

/-- What stands behind the directive of a region. -/
def regionTail (name : List Char) : List Char :=
  if name = [] then [] else ' ' :: name

theorem regionTail_inj {first second : List Char} (h : regionTail first = regionTail second) :
    first = second := by
  unfold regionTail at h
  split at h <;> split at h <;> simp_all

theorem toList_regionKey {entry : Entry} (h : Text.trim entry.name.toList = entry.name.toList) :
    entry.regionKey.toList = entry.boundary.directive.toList ++ regionTail entry.name.toList := by
  have hdirective : entry.regionKey.toList
      = Text.trimEnd (entry.boundary.directive.toList ++ ' ' :: entry.name.toList) := by
    unfold Entry.regionKey Entry.boundary
    cases entry.region <;> simp
  rw [hdirective]
  unfold regionTail
  split
  · rename_i hnone
    rw [hnone, List.append_nil]
    cases entry.boundary <;> decide
  · rename_i hsome
    refine Text.trimEnd_eq_self fun c hc => ?_
    rw [List.getLast?_append_of_ne_nil _ (List.cons_ne_nil _ _),
      List.getLast?_cons_of_ne_nil hsome, ← h] at hc
    exact Text.not_blank_of_mem_getLast?_trimEnd _ c hc

/-- What an ancestry puts in front of a name. -/
def Ancestry.lead (path : Ancestry) : List Char :=
  if path.render = "" then [] else path.render.toList ++ ['.']

theorem Ancestry.toList_qualify (path : Ancestry) (name : String) :
    (path.qualify name).toList = path.lead ++ name.toList := by
  unfold Ancestry.qualify Ancestry.lead
  simp only [String.isEmpty_iff]
  split
  · rfl
  · rw [String.toList_append, String.toList_append]
    rfl

theorem Ancestry.lead_inj {first second : Ancestry} :
    first.lead = second.lead ↔ first.render = second.render := by
  unfold Ancestry.lead
  constructor
  · intro h
    split at h <;> split at h <;> simp_all [String.toList_inj]
  · intro h
    rw [h]

/-- A sign that is in no segment, and does not stand between segments, is not in front of a name
either. -/
theorem Ancestry.not_mem_lead {path : Ancestry} {c : Char} (hstop : c ≠ '.') (hbar : c ≠ '|')
    (hclear : path.Clear) (h : ∀ segment ∈ path.namespaces ++ path.types, c ∉ segment.toList) :
    c ∉ path.lead := by
  have hrender : c ∉ path.render.toList := by
    by_cases hone : path.OneGroup
    · rw [render_of_oneGroup hone]
      exact not_mem_joinTexts hstop h
    · obtain ⟨hnamespaces, htypes⟩ := List.forall_mem_append.1 h
      rw [render_of_twoGroups hclear hone, String.toList_append, String.toList_append]
      simp only [List.mem_append, not_or]
      exact ⟨⟨not_mem_joinTexts hstop hnamespaces, by simpa using hbar⟩,
        not_mem_joinTexts hstop htypes⟩
  unfold Ancestry.lead
  split
  · exact List.not_mem_nil
  · simp [hrender, hstop]

theorem Entry.ClearRegion.toList_key {entry : Entry} (h : entry.ClearRegion) :
    entry.key.toList
      = entry.parent.lead ++ (entry.boundary.directive.toList ++ regionTail entry.name.toList) := by
  have hkey : entry.key = entry.parent.qualify entry.regionKey := by
    unfold Entry.key
    rw [h.kind]
  rw [hkey, Ancestry.toList_qualify, toList_regionKey h.trimmed]

/-- The directives of the two sides differ behind their first sign, and neither begins as the
other does. -/
theorem directive_append_inj {first second : Boundary} {tail tail' : List Char} :
    first.directive.toList ++ tail = second.directive.toList ++ tail'
      ↔ first = second ∧ tail = tail' := by
  cases first <;> cases second <;> simp [Boundary.directive]

/-- **The key of a region marker.** It tells the side, the name and the rendered ancestry of the
marker, and so everything but whether an ancestry of one group is made of namespaces or of
types. -/
theorem region_key_tells_marker {first second : Entry} (hfirst : first.ClearRegion)
    (hsecond : second.ClearRegion) :
    first.key = second.key
      ↔ first.boundary = second.boundary ∧ first.name = second.name
        ∧ (first.parent = second.parent
          ∨ second.parent.OneGroup ∧ first.parent = second.parent.swapped) := by
  rw [← Ancestry.render_eq_iff hfirst.path hsecond.path, ← String.toList_inj, hfirst.toList_key,
    hsecond.toList_key]
  constructor
  · intro h
    -- The directive begins with the first `#` of the key.
    have hmark : ∀ boundary : Boundary, ∃ rest, boundary.directive.toList = '#' :: rest := by
      intro boundary
      cases boundary <;> exact ⟨_, rfl⟩
    have hlead : ∀ {entry : Entry}, entry.ClearRegion → '#' ∉ entry.parent.lead :=
      fun hentry => Ancestry.not_mem_lead (by decide) (by decide) hentry.path hentry.unmarked
    obtain ⟨rest, hrest⟩ := hmark first.boundary
    obtain ⟨rest', hrest'⟩ := hmark second.boundary
    have hcut := h
    rw [hrest, hrest', List.cons_append, List.cons_append] at hcut
    obtain ⟨hleads, -, -⟩ := append_cons_inj (hlead hsecond) (hlead hfirst) hcut
    rw [hleads] at h
    obtain ⟨hboundary, htail⟩ := directive_append_inj.1 (List.append_cancel_left h)
    exact ⟨hboundary, String.toList_inj.1 (regionTail_inj htail), Ancestry.lead_inj.1 hleads⟩
  · rintro ⟨hboundary, hname, hrender⟩
    rw [hboundary, hname, Ancestry.lead_inj.2 hrender]

/-- Markers of one region in a class of a namespace. -/
theorem region_key_tells_marker_of_two_groups :
    let opening : Entry :=
      { kind := .region, name := "a.#region b", startLine := 3,
        parent := { namespaces := ["App"], types := ["A"] }
        region := some { boundary := .start, name := "a.#region b", depth := 0 } }
    let closing : Entry :=
      { opening with
        startLine := 5
        region := some { boundary := .stop, name := "a.#region b", depth := 0 } }
    opening.ClearRegion ∧ closing.ClearRegion ∧ opening.key = "App|A.#region a.#region b"
      ∧ opening.key ≠ closing.key := by
  intro opening closing
  have hopening : opening.ClearRegion := ⟨rfl, by decide, by decide, by decide⟩
  have hclosing : closing.ClearRegion := ⟨rfl, by decide, by decide, by decide⟩
  refine ⟨hopening, hclosing, by decide, ?_⟩
  intro hsame
  have hboundary := ((region_key_tells_marker hopening hclosing).1 hsame).1
  exact absurd hboundary (by decide)

/-- **A namespace can be taken for a type.** A region in the namespace `A` and one of the same name
in the type `A` have one key, because both ancestries render as `A`. -/
theorem region_key_shared_by_two_groups :
    let marker : Marker := { boundary := .start, name := "X", depth := 0 }
    let inNamespace : Entry :=
      { kind := .region, name := "X", startLine := 1, parent := { namespaces := ["A"] }
        region := some marker }
    let inType : Entry :=
      { kind := .region, name := "X", startLine := 5, parent := { types := ["A"] }
        region := some marker }
    inNamespace.ClearRegion ∧ inType.ClearRegion
      ∧ inNamespace.parent ≠ inType.parent ∧ inNamespace.parent.render = inType.parent.render
      ∧ inNamespace.key = "A.#region X" ∧ inType.key = "A.#region X" := by
  intro marker inNamespace inType
  exact ⟨⟨rfl, by decide, by decide, by decide⟩, ⟨rfl, by decide, by decide, by decide⟩,
    by decide, by decide, by decide, by decide⟩

end SourceOutline
