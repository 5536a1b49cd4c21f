/-
Regions open in the innermost container.

A marker is located in the forest that splicing has reached, and not in the one it began
with. The two can differ in what matters: a container without a last line of its own ends
with the last of its children, and a marker among them may reach further than they do.

Markers come in the order of their lines, though, and the line of an opening one lies
behind all others before it. A body that a marker has stretched ends on the line of that
marker, so no later line is inside of it that was not inside before
(`Traced.locate_eq`). Every opening marker is therefore located as if it came first
(`MarkerStyle.placements_scan`).
-/
import Mathlib.Data.Prod.Lex
import SourceOutline.Proofs.Insertion

set_option autoImplicit false

namespace SourceOutline

open scoped List

/-! ## The innermost container -/

/-- Whether a member is a container whose body holds a line, its own first line excepted. -/
structure Member.Holds (member : Member) (line : Nat) : Prop where
  container : member.isContainer = true
  body : ∃ body ∈ member.bodyLines?, body.1 < line ∧ line ≤ body.2

/-- Containers are told apart by their first line, and on one line by their depth. -/
def Entry.rank (entry : Entry) : Nat ×ₗ Nat := toLex (entry.startLine, entry.parent.depth)

/-- The container of a forest in which a line lies: no other one that holds the line has a
greater rank, and none behind it has the same. -/
structure Forest.Innermost (forest : Forest) (line : Nat) (chosen : Member) : Prop where
  holds : chosen.Holds line
  greatest : ∀ member ∈ forest, member.Holds line → member.entry.rank ≤ chosen.entry.rank
  last : ∃ before after, forest = before ++ chosen :: after
    ∧ ∀ member ∈ after, member.Holds line → member.entry.rank < chosen.entry.rank

/-- The namespaces of a span that covers a line and has the most segments, or none when no
span does. -/
inductive NamespacesOn (spans : List NamespaceSpan) (line : Nat) : List String → Prop where
  | span {span : NamespaceSpan} (hspan : span ∈ spans) (hcovers : span.covers line = true)
      (hmost : ∀ other ∈ spans, other.covers line = true →
        other.namespaces.length ≤ span.namespaces.length) : NamespacesOn spans line span.namespaces
  | none (hnone : ∀ span ∈ spans, ¬span.covers line = true) : NamespacesOn spans line []

theorem Member.holds_iff {member : Member} {line : Nat} :
    member.Holds line ↔ (member.isContainer && member.reachesOver line) = true := by
  have hreaches : member.reachesOver line = true
      ↔ ∃ body ∈ member.bodyLines?, body.1 < line ∧ line ≤ body.2 := by
    unfold Member.reachesOver
    cases member.bodyLines? with
    | none => simp
    | some body => simp
  rw [Bool.and_eq_true, hreaches]
  exact ⟨fun h => ⟨h.container, h.body⟩, fun h => ⟨h.1, h.2⟩⟩

theorem Entry.notDeeper_iff {first second : Entry} :
    first.notDeeper second = true ↔ first.rank ≤ second.rank := by
  rw [Entry.rank, Entry.rank, Prod.Lex.toLex_le_toLex]
  simp [Entry.notDeeper]

/-- What the search for the last maximum gives. -/
theorem lastMax?_eq_some {α β : Type} [LinearOrder β] (key : α → β) {le : α → α → Bool}
    (hle : ∀ a b, le a b = true ↔ key a ≤ key b) {l : List α} {a : α}
    (h : lastMax? le l = some a) :
    (∀ b ∈ l, key b ≤ key a)
      ∧ ∃ before after, l = before ++ a :: after ∧ ∀ b ∈ after, key b < key a := by
  induction l generalizing a with
  | nil => cases h
  | cons first rest ih =>
    rw [lastMax?] at h
    split at h
    · rename_i hrest
      cases h
      -- The rest has no maximum, so there is nothing in it.
      have hempty : rest = [] := by
        cases rest with
        | nil => rfl
        | cons second rest =>
          rw [lastMax?] at hrest
          split at hrest
          · cases hrest
          · split at hrest <;> cases hrest
      subst hempty
      exact ⟨by simp, [], [], rfl, List.forall_mem_nil _⟩
    · rename_i last hlast
      obtain ⟨hgreatest, before, after, hsplit, hafter⟩ := ih hlast
      split at h
      · rename_i hfirst
        cases h
        exact ⟨List.forall_mem_cons.2 ⟨(hle _ _).1 hfirst, hgreatest⟩, first :: before, after,
          congrArg _ hsplit, hafter⟩
      · rename_i hfirst
        cases h
        rw [hle, not_le] at hfirst
        have hless : ∀ b ∈ rest, key b < key first := fun b hb => (hgreatest b hb).trans_lt hfirst
        exact ⟨List.forall_mem_cons.2 ⟨le_rfl, fun b hb => (hless b hb).le⟩, [], rest, rfl, hless⟩

theorem lastMax?_eq_none {α : Type} {le : α → α → Bool} {l : List α} :
    lastMax? le l = none ↔ l = [] := by
  cases l with
  | nil => exact ⟨fun _ => rfl, fun _ => rfl⟩
  | cons first rest =>
    refine ⟨fun h => ?_, fun h => by cases h⟩
    rw [lastMax?] at h
    split at h
    · cases h
    · split at h <;> cases h

theorem Forest.innermost?_eq_some {forest : Forest} {line : Nat} {entry : Entry}
    (h : forest.innermost? line = some entry) :
    ∃ chosen, forest.Innermost line chosen ∧ chosen.entry = entry := by
  have hkeys : ∀ members : List Member, lastMax? Entry.notDeeper (members.map Member.entry)
      = (lastMax? (fun first second => first.entry.notDeeper second.entry) members).map
        Member.entry := lastMax?_map fun _ _ => rfl
  rw [Forest.innermost?, hkeys, Option.map_eq_some_iff] at h
  obtain ⟨chosen, hchosen, hentry⟩ := h
  obtain ⟨hgreatest, before, after, hsplit, hafter⟩ :=
    lastMax?_eq_some (fun member : Member => member.entry.rank)
      (fun _ _ => Entry.notDeeper_iff) hchosen
  -- The members that hold the line, put back among the others.
  obtain ⟨front, back, hforest, -, hback⟩ := List.filter_eq_append_iff.1 hsplit
  obtain ⟨between, rest, rfl, -, hholds, rfl⟩ := List.filter_eq_cons_iff.1 hback
  refine ⟨chosen, ⟨Member.holds_iff.2 hholds, ?_, front ++ between, rest, ?_, ?_⟩, hentry⟩
  · intro member hmember hline
    exact hgreatest member (List.mem_filter.2 ⟨hmember, Member.holds_iff.1 hline⟩)
  · rw [hforest, List.append_assoc]
  · intro member hmember hline
    exact hafter member (List.mem_filter.2 ⟨hmember, Member.holds_iff.1 hline⟩)

theorem Forest.innermost?_eq_none {forest : Forest} {line : Nat} :
    forest.innermost? line = none ↔ ∀ member ∈ forest, ¬member.Holds line := by
  rw [Forest.innermost?, lastMax?_eq_none, List.map_eq_nil_iff, List.filter_eq_nil_iff]
  simp only [Member.holds_iff]

theorem namespacesOn_namespacesAt (spans : List NamespaceSpan) (line : Nat) :
    NamespacesOn spans line (namespacesAt spans line) := by
  unfold namespacesAt
  cases hmax : lastMax? (fun a b => decide (a.namespaces.length ≤ b.namespaces.length))
      (spans.filter fun span => span.covers line) with
  | none =>
    rw [lastMax?_eq_none, List.filter_eq_nil_iff] at hmax
    exact .none hmax
  | some span =>
    obtain ⟨hspan, hcovers⟩ := List.mem_filter.1 (lastMax?_mem hmax)
    obtain ⟨hmost, -⟩ := lastMax?_eq_some (fun span : NamespaceSpan => span.namespaces.length)
      (fun _ _ => decide_eq_true_iff) hmax
    exact .span hspan hcovers fun other hother hline =>
      hmost other (List.mem_filter.2 ⟨hother, hline⟩)

/-- The place where a region opens that begins on a line. -/
inductive Forest.OpensAt (forest : Forest) (spans : List NamespaceSpan) (line : Nat) :
    Home → Prop where
  /-- In the container the line lies in. Of several that its first line and its child path
  do not tell apart, the first one is meant. -/
  | inside {chosen : Member} {k : Nat} (hchosen : forest.Innermost line chosen)
      (howner : forest.findIdx? (Member.isOwner chosen.startLine chosen.entry.childPath) = some k) :
      OpensAt forest spans line ⟨some k, chosen.entry.childPath⟩
  /-- In the file itself. -/
  | beside {namespaces : List String} (hnone : ∀ member ∈ forest, ¬member.Holds line)
      (hnamespaces : NamespacesOn spans line namespaces) :
      OpensAt forest spans line ⟨none, { namespaces }⟩

theorem Forest.opensAt_of_home? {forest : Forest} {spans : List NamespaceSpan} {line : Nat}
    {home : Home} (h : forest.home? (forest.locate spans line) = some home) :
    forest.OpensAt spans line home := by
  unfold Forest.locate at h
  cases hinnermost : forest.innermost? line with
  | none =>
    rw [hinnermost] at h
    cases h
    exact .beside (Forest.innermost?_eq_none.1 hinnermost) (namespacesOn_namespacesAt spans line)
  | some entry =>
    obtain ⟨chosen, hchosen, rfl⟩ := Forest.innermost?_eq_some hinnermost
    rw [hinnermost] at h
    obtain ⟨k, hk, rfl⟩ := Option.map_eq_some_iff.1 h
    exact .inside hchosen hk

/-! ## Bodies that markers stretch -/

theorem Member.lastLineOf?_cases {line : Nat} (children : Forest) :
    (∃ last ∈ Member.lastLineOf? children, line ≤ last)
      ↔ ∃ child ∈ children, line ≤ child.entry.lastLine := by
  induction children with
  | nil => simp [Member.lastLineOf?]
  | cons child rest ih =>
    rw [Member.lastLineOf?, List.exists_mem_cons_iff, ← ih]
    cases Member.lastLineOf? rest with
    | none => simp
    | some last => simp

/-- A line behind the first one is in a body if it does not lie behind the last line, or
behind every child when there is no last line. -/
theorem Member.reachesOver_iff {member : Member} {line : Nat} :
    member.reachesOver line = true ↔ member.startLine < line
      ∧ match member.entry.endLine with
        | some last => line ≤ last
        | none => ∃ child ∈ member.children, line ≤ child.entry.lastLine := by
  unfold Member.reachesOver Member.bodyLines?
  cases member.entry.endLine with
  | some last => simp
  | none =>
    dsimp only
    rw [← Member.lastLineOf?_cases]
    cases Member.lastLineOf? member.children with
    | none => simp
    | some last =>
      simp only [Option.map_some, Bool.and_eq_true, decide_eq_true_eq, Option.mem_def,
        Option.some.injEq, exists_eq_left']
      omega

namespace Traced

/-- Markers among the children do not stretch a body over a line behind them. -/
theorem reachesOver_eq {element : TracedMember} {line : Nat}
    (h : ∀ child ∈ element.children.added, child.2.entry.lastLine < line) :
    element.member.reachesOver line = element.before.reachesOver line := by
  have hchildren : (∃ child ∈ element.member.children, line ≤ child.entry.lastLine)
      ↔ ∃ child ∈ element.before.children, line ≤ child.entry.lastLine := by
    constructor
    · rintro ⟨child, hchild, hline⟩
      rcases Noted.mem_iff.1 hchild with hkept | hadded
      · exact ⟨child, hkept, hline⟩
      · obtain ⟨marker, hmarker, rfl⟩ := List.mem_map.1 hadded
        have := h marker hmarker
        omega
    · rintro ⟨child, hchild, hline⟩
      exact ⟨child, Noted.mem_iff.2 (.inl hchild), hline⟩
  rw [Bool.eq_iff_iff, Member.reachesOver_iff, Member.reachesOver_iff, hchildren]
  rfl

/-- **A line behind all markers that were put in is located as in the forest without them.** -/
theorem locate_eq {traced : Traced} {line : Nat}
    (h : ∀ insertion ∈ traced.insertions, insertion.marker.entry.kind = .region
      ∧ insertion.marker.entry.lastLine < line) (spans : List NamespaceSpan) :
    traced.forest.locate spans line = traced.before.locate spans line := by
  have hadded : ∀ element ∈ Noted.added traced, element.2.entry.kind = .region := by
    intro element helement
    exact (h ⟨none, element.1, element.2.member⟩
      (List.mem_append_left _ (List.mem_map_of_mem helement))).1
  have hinside : ∀ element ∈ Noted.kept traced, ∀ child ∈ element.children.added,
      child.2.entry.lastLine < line := by
    intro element helement child hchild
    obtain ⟨k, hk⟩ := List.mem_iff_getElem?.1 helement
    have hinsertion : (⟨some k, child.1, child.2⟩ : Insertion) ∈ traced.insertions :=
      List.mem_append_right _ (List.mem_flatMap.2
        ⟨(element, k), List.mk_mem_zipIdx_iff_getElem?.2 hk, List.mem_map_of_mem hchild⟩)
    exact (h _ hinsertion).2
  have hholding : ((traced.forest.filter fun member =>
        member.isContainer && member.reachesOver line).map Member.entry)
      = (traced.before.filter fun member =>
        member.isContainer && member.reachesOver line).map Member.entry := by
    clear h
    induction traced with
    | nil => rfl
    | cons element rest ih =>
      obtain ⟨note, element⟩ := element
      cases note with
      | some number =>
        -- A marker is no container.
        obtain ⟨hkind, hrest⟩ := List.forall_mem_cons.1 hadded
        have hplain : element.member.isContainer = false := by
          unfold Member.isContainer
          change element.entry.kind.isContainer = false
          rw [hkind]
          rfl
        have hskip := ih hrest hinside
        unfold forest before at hskip ⊢
        rw [List.map_cons, List.filter_cons_of_neg (by simp [hplain]), Noted.kept_some]
        exact hskip
      | none =>
        obtain ⟨hbody, hrest⟩ := List.forall_mem_cons.1 hinside
        have hskip := ih hadded hrest
        unfold forest before at hskip ⊢
        have hsame : (element.member.isContainer && element.member.reachesOver line)
            = (element.before.isContainer && element.before.reachesOver line) := by
          rw [reachesOver_eq hbody]
          rfl
        rw [List.map_cons, Noted.kept_none, List.map_cons, List.filter_cons, List.filter_cons, hsame]
        split
        · rw [List.map_cons, List.map_cons, hskip]
          rfl
        · exact hskip
  unfold Forest.locate Forest.innermost?
  rw [hholding]

end Traced

/-! ## Markers in the order of their lines -/

namespace MarkerStyle

/-- An opening marker stands on one of the lines, while a closing one may stand for the end of
the text. -/
theorem lt_startLine_of_opensRegion {style : MarkerStyle} {opened : List String}
    {number bound : Nat} {lines : List (Nat × List Char)} (hlines : ∀ line ∈ lines, bound < line.1) :
    ∀ marker ∈ style.scanLines opened number lines, marker.opensRegion = true →
      bound < marker.startLine := by
  induction lines generalizing opened number with
  | nil =>
    intro marker hmarker hopens
    obtain ⟨name, depth, rfl⟩ := exists_ofMarker_of_mem_closeAll hmarker
    exact absurd hopens Bool.false_ne_true
  | cons line rest ih =>
    obtain ⟨hline, hrest⟩ := List.forall_mem_cons.1 hlines
    unfold scanLines
    split
    · exact ih hrest
    · exact List.forall_mem_cons.2 ⟨fun _ => hline, ih hrest⟩
    · split
      · exact ih hrest
      · exact List.forall_mem_cons.2 ⟨fun _ => hline, ih hrest⟩

theorem pairwise_scanLines {style : MarkerStyle} {opened : List String} {number : Nat}
    {lines : List (Nat × List Char)}
    (hlines : lines.Pairwise fun first second => first.1 < second.1) :
    (style.scanLines opened number lines).Pairwise fun first second =>
      second.opensRegion = true → first.startLine < second.startLine := by
  induction lines generalizing opened number with
  | nil =>
    refine List.pairwise_of_forall_mem_list fun first _ second hsecond hopens => ?_
    obtain ⟨name, depth, rfl⟩ := exists_ofMarker_of_mem_closeAll hsecond
    exact absurd hopens Bool.false_ne_true
  | cons line rest ih =>
    obtain ⟨hline, hrest⟩ := List.pairwise_cons.1 hlines
    unfold scanLines
    split
    · exact ih hrest
    · exact List.pairwise_cons.2 ⟨lt_startLine_of_opensRegion hline, ih hrest⟩
    · split
      · exact ih hrest
      · exact List.pairwise_cons.2 ⟨lt_startLine_of_opensRegion hline, ih hrest⟩

/-- The markers before an opening one are behind it, down to their last lines. -/
theorem lastLine_lt_of_mem_take {style : MarkerStyle} {source : String} {fromLine i : Nat}
    {marker : Member} (hmarker : (style.scan source fromLine)[i]? = some marker)
    (hopens : marker.opensRegion = true) :
    ∀ other ∈ (style.scan source fromLine).take i,
      other.entry.kind = .region ∧ other.entry.lastLine < marker.startLine := by
  intro other hother
  obtain ⟨mark, line, column, rfl⟩ :=
    exists_ofMarker_of_mem_scanLines other (List.mem_of_mem_take hother)
  refine ⟨rfl, ?_⟩
  have hpairwise : (style.scan source fromLine).Pairwise fun first second =>
      second.opensRegion = true → first.startLine < second.startLine := by
    unfold scan
    refine pairwise_scanLines ?_
    exact (Text.pairwise_numbered 0 _).1.sublist (List.drop_sublist _ _)
  obtain ⟨hlt, hget⟩ := List.getElem?_eq_some_iff.1 hmarker
  obtain ⟨j, hj, hjget⟩ := List.mem_take_iff_getElem.1 hother
  have hbefore := List.pairwise_iff_getElem.1 hpairwise j i (by omega) hlt (by omega)
  rw [hget, hjget] at hbefore
  exact hbefore hopens

end MarkerStyle

/-! ## Where regions open -/

theorem Member.closesRegion_of_opensRegion {member : Member} (h : member.opensRegion = true) :
    member.closesRegion = false := by
  unfold Member.opensRegion at h
  unfold Member.closesRegion
  cases hregion : member.entry.region with
  | none => rfl
  | some marker =>
    rw [hregion] at h
    dsimp only at h ⊢
    rw [eq_of_beq h]
    rfl

/-- An opening marker is located in what the markers before it have made of the forest. -/
theorem Forest.getElem?_placementsWith (spans : List NamespaceSpan) (stack : List Placement)
    (forest : Forest) {markers : List Member} {i : Nat} {marker : Member}
    (hmarker : markers[i]? = some marker) (hside : marker.closesRegion = false) :
    (forest.placementsWith spans stack markers)[i]?
      = some ((forest.spliceWith spans stack (markers.take i)).locate spans marker.startLine) := by
  induction markers generalizing stack forest i with
  | nil => cases hmarker
  | cons first rest ih =>
    cases i with
    | zero =>
      cases hmarker
      rw [Forest.placementsWith_open _ _ _ hside, List.take_zero, Forest.spliceWith]
      rfl
    | succ i =>
      obtain ⟨placement, stack', hstep, -⟩ := forest.placementsWith_cases spans stack first
      rw [List.take_succ_cons, (hstep rest).1, (hstep (rest.take i)).2]
      exact ih stack' _ hmarker

/-- **An opening marker is located as if it came first.** -/
theorem MarkerStyle.placements_scan (forest : Forest) (style : MarkerStyle) (source : String)
    (fromLine : Nat) (spans : List NamespaceSpan) {i : Nat} {marker : Member}
    (hmarker : (style.scan source fromLine)[i]? = some marker)
    (hopens : marker.opensRegion = true) :
    (forest.placements spans (style.scan source fromLine))[i]?
      = some (forest.locate spans marker.startLine) := by
  have hbefore := lastLine_lt_of_mem_take hmarker hopens
  obtain ⟨homes, -, traced, hforest, hkept, hinsertions⟩ :=
    forest.exists_homes spans fun other hother => (hbefore other hother).1
  have hside := Member.closesRegion_of_opensRegion hopens
  have hlocated : (forest.splice ((style.scan source fromLine).take i) spans).locate spans
      marker.startLine = forest.locate spans marker.startLine := by
    rw [← hforest, Traced.locate_eq ?_ spans, hkept]
    intro insertion hinsertion
    obtain ⟨⟨⟨other, home⟩, number⟩, hplaced, rfl⟩ :=
      List.mem_map.1 (hinsertions.mem_iff.1 hinsertion)
    have hother := (List.of_mem_zip (List.fst_mem_of_mem_zipIdx hplaced)).1
    have hunder : (home.insertion number other).marker.entry = other.entry.under home.path :=
      other.entry_under home.path
    rw [hunder]
    exact hbefore other hother
  unfold Forest.placements
  rw [Forest.getElem?_placementsWith spans [] forest hmarker hside]
  exact congrArg some hlocated

/-! ## Bodies inside one another -/

/-- Two bodies that have no line in common except the first line of one of them. -/
def Apart (body other : Nat × Nat) : Prop := body.2 ≤ other.1 ∨ other.2 ≤ body.1

/-- A body inside another one. -/
def Within (inner outer : Nat × Nat) : Prop := outer.1 ≤ inner.1 ∧ inner.2 ≤ outer.2

instance (body other : Nat × Nat) : Decidable (Apart body other) :=
  inferInstanceAs (Decidable (_ ∨ _))

instance (inner outer : Nat × Nat) : Decidable (Within inner outer) :=
  inferInstanceAs (Decidable (_ ∧ _))

/-- The bodies of containers are apart or one inside the other, and what lies inside has the
greater rank. -/
structure Forest.WellNested (forest : Forest) : Prop where
  laminar : ∀ first ∈ forest, ∀ second ∈ forest,
    first.isContainer = true → second.isContainer = true →
    ∀ body ∈ first.bodyLines?, ∀ other ∈ second.bodyLines?,
      Apart body other ∨ Within body other ∨ Within other body
  deeper : ∀ inner ∈ forest, ∀ outer ∈ forest,
    inner.isContainer = true → outer.isContainer = true →
    ∀ body ∈ inner.bodyLines?, ∀ around ∈ outer.bodyLines?,
      Within body around → body ≠ around → outer.entry.rank < inner.entry.rank

/-- Where bodies are well nested, the container in which a line lies is inside of all others
that hold the line. -/
theorem Forest.Innermost.within {forest : Forest} (h : forest.WellNested) {line : Nat}
    {chosen : Member} (hchosen : forest.Innermost line chosen) {member : Member}
    (hmember : member ∈ forest) (hholds : member.Holds line) :
    ∀ body ∈ chosen.bodyLines?, ∀ around ∈ member.bodyLines?, Within body around := by
  intro body hbody around haround
  have hthere : chosen ∈ forest := by
    obtain ⟨before, after, rfl, -⟩ := hchosen.last
    exact List.mem_append_right _ List.mem_cons_self
  obtain ⟨hcontainer, body', hbody', hline⟩ := hchosen.holds
  obtain ⟨hcontainer', around', haround', hline'⟩ := hholds
  cases Option.mem_unique hbody hbody'
  cases Option.mem_unique haround haround'
  rcases h.laminar chosen hthere member hmember hcontainer hcontainer' body hbody around haround with
    hapart | hwithin | hwithin
  · unfold Apart at hapart
    omega
  · exact hwithin
  · -- The other one is inside of the chosen one, so it would have been chosen.
    by_cases heq : around = body
    · rw [heq]
      exact ⟨Nat.le_refl _, Nat.le_refl _⟩
    · have hdeeper := h.deeper member hmember chosen hthere hcontainer' hcontainer around haround
        body hbody hwithin heq
      have hgreatest := hchosen.greatest member hmember ⟨hcontainer', around, haround, hline'⟩
      exact absurd hdeeper (not_lt_of_ge hgreatest)

/-- The markers of a text, put into a forest each in its place. -/
structure Forest.OpensInnermost (forest : Forest) (style : MarkerStyle) (source : String)
    (fromLine : Nat) (spans : List NamespaceSpan) (homes : List Home) : Prop where
  /-- The result holds each marker once, in its place. -/
  inserted : ∃ traced : Traced, traced.forest = forest.resolveRegions style source fromLine spans
    ∧ traced.before = forest
    ∧ traced.insertions ~ insertionsAt (style.scan source fromLine) homes
  /-- A region opens where it does in the forest as it was. -/
  opens : ∀ (i : Nat) (marker : Member), (style.scan source fromLine)[i]? = some marker →
    marker.opensRegion = true → ∃ home, homes[i]? = some home
      ∧ forest.home? (forest.locate spans marker.startLine) = some home
      ∧ forest.OpensAt spans marker.startLine home
  /-- If bodies are well nested, that is in the innermost of them. -/
  innermost : forest.WellNested → ∀ line chosen, forest.Innermost line chosen →
    ∀ member ∈ forest, member.Holds line →
      ∀ body ∈ chosen.bodyLines?, ∀ around ∈ member.bodyLines?, Within body around

/-- **Regions open in the innermost container**, wherever the markers before them went. -/
theorem regions_open_in_innermost (forest : Forest) (style : MarkerStyle) (source : String)
    (fromLine : Nat) (spans : List NamespaceSpan) :
    ∃ homes, forest.OpensInnermost style source fromLine spans homes := by
  have hmarkers : ∀ marker ∈ style.scan source fromLine, marker.entry.kind = .region := by
    intro marker hmarker
    obtain ⟨mark, line, column, rfl⟩ :=
      MarkerStyle.exists_ofMarker_of_mem_scanLines marker hmarker
    rfl
  obtain ⟨homes, hhomes, hinserted⟩ := forest.exists_homes spans hmarkers
  refine ⟨homes, hinserted, ?_, ?_⟩
  · intro i marker hmarker hopens
    have hplacement := style.placements_scan forest source fromLine spans hmarker hopens
    obtain ⟨home, hget, hhome⟩ := exists_of_forall₂_getElem? hhomes hplacement
    exact ⟨home, hget, hhome, Forest.opensAt_of_home? hhome⟩
  · intro hnested line chosen hchosen member hmember hholds
    exact hchosen.within hnested hmember hholds

/-- A class inside another one that ends with its last child. The region that opens in the outer
one stretches it over two more lines, and the line after these is outside all the same. -/
theorem regions_open_in_innermost_of_stretched_class :
    let inner : Ancestry := { types := ["A", "B"] }
    let outer : Ancestry := { types := ["A"] }
    let forest : Forest := [
      .node { kind := .classType, name := "A", startLine := 0 } [
        .leaf { kind := .method, name := "f", startLine := 6, parent := outer }],
      .node { kind := .classType, name := "B", startLine := 2, endLine := some 4, parent := outer } []]
    let text := "\n#region X\n\n#region Y\n#endregion\n\n\n\n#endregion\n#region Z"
    let spans : List NamespaceSpan := [⟨["N"], 0, 9⟩, ⟨["N", "M"], 8, 9⟩]
    let rows := fun (members : Forest) =>
      members.map fun member => (member.entry.title, member.startLine, member.entry.parent)
    (forest.resolveRegions .directive text 0 spans).map (fun member =>
        (member.entry.title, rows member.children))
      = [("A", [("<X>", 1, outer), ("f", 6, outer), ("</X>", 8, outer)]),
        ("B", [("<Y>", 3, inner), ("</Y>", 4, inner)]), ("<Z>", []), ("</Z>", [])]
    ∧ forest.WellNested
    ∧ ∃ homes, forest.OpensInnermost .directive text 0 spans homes
      ∧ homes[1]? = some ⟨some 1, inner⟩ ∧ forest.OpensAt spans 3 ⟨some 1, inner⟩
      ∧ ∀ chosen, forest.Innermost 3 chosen → ∀ member ∈ forest, member.Holds 3 →
        ∀ body ∈ chosen.bodyLines?, ∀ around ∈ member.bodyLines?, Within body around := by
  intro inner outer forest text spans rows
  have hnested : forest.WellNested := ⟨by decide, by decide⟩
  have hmarker : ((MarkerStyle.scan .directive text 0)[1]?.map fun marker =>
      (marker.startLine, marker.opensRegion)) = some (3, true) := by decide +kernel
  have hlocated : forest.home? (forest.locate spans 3) = some ⟨some 1, inner⟩ := by decide
  obtain ⟨marker, hget, hpair⟩ := Option.map_eq_some_iff.1 hmarker
  obtain ⟨hline, hopens⟩ := Prod.mk.inj hpair
  obtain ⟨homes, hhomes⟩ := regions_open_in_innermost forest .directive text 0 spans
  obtain ⟨home, hhome, hplaced, hplace⟩ := hhomes.opens 1 marker hget hopens
  rw [hline] at hplaced hplace
  cases Option.some.inj (hplaced.symm.trans hlocated)
  exact ⟨by decide +kernel, hnested, homes, hhomes, hhome, hplace, hhomes.innermost hnested 3⟩

end SourceOutline
