/-
The contract of a mapper.

A mapper lists containers side by side, each with its direct members, and leaves it to
the ancestries to say which container is nested in which. Everything after it relies
on that: a region marker is placed by the lines of containers, a nested container is
found by its ancestry, and the depth of a row is the length of its ancestry.

The contract comes in two parts. `Forest.Listed` is about ancestries and holds however
the lines are. `Forest.WellFormed` adds the order of lines, which a mapper can only keep
if what it reads is in order. The first part is stated for one member against a set of
owners (`Member.Listed`), since a mapper finds containers one after the other and the
set only grows.
-/
import SourceOutline.Proofs.Forest

set_option autoImplicit false

namespace SourceOutline

open scoped List

/-! ## Ancestries -/

/-- A direct member of what has that child path: no container, and no region marker. -/
structure Member.Direct (path : Ancestry) (member : Member) : Prop where
  plain : member.isContainer = false
  unmarked : member.entry.kind ≠ .region
  parent : member.entry.parent = path

/-- What the ancestry of a member has to be, given the child paths of the containers that
may own it. -/
structure Member.Listed (owner : Ancestry → Prop) (member : Member) : Prop where
  children : member.isContainer = true → ∀ child ∈ member.children,
    child.Direct member.entry.childPath
  loose : member.isContainer = false → member.entry.parent = .root
  owned : member.isContainer = true →
    member.entry.parent.types = [] ∨ owner member.entry.parent

/-- The members of a forest as a mapper lists them. -/
def Forest.Listed (forest : Forest) : Prop :=
  ∀ member ∈ forest, member.Listed (· ∈ forest.owners)

theorem Member.Listed.mono {owner owner' : Ancestry → Prop} {member : Member}
    (h : member.Listed owner) (howner : ∀ path, owner path → owner' path) :
    member.Listed owner' :=
  ⟨h.children, h.loose, fun hcontainer => (h.owned hcontainer).imp id (howner _)⟩

/-- A direct member of the file itself. -/
theorem Member.Direct.listed {member : Member} (h : member.Direct .root)
    (owner : Ancestry → Prop) : member.Listed owner := by
  have hnot : ¬member.isContainer = true := by
    rw [h.plain]
    exact Bool.false_ne_true
  exact ⟨fun hcontainer => absurd hcontainer hnot, fun _ => h.parent,
    fun hcontainer => absurd hcontainer hnot⟩

/-- A container with its direct members. -/
theorem Member.listed_of_container {member : Member} {owner : Ancestry → Prop}
    (hcontainer : member.isContainer = true)
    (hchildren : ∀ child ∈ member.children, child.Direct member.entry.childPath)
    (howned : member.entry.parent.types = [] ∨ owner member.entry.parent) :
    member.Listed owner := by
  refine ⟨fun _ => hchildren, ?_, fun _ => howned⟩
  intro hplain
  rw [hcontainer] at hplain
  cases hplain

theorem Forest.mem_owners {forest : Forest} {path : Ancestry} :
    path ∈ forest.owners
      ↔ ∃ member ∈ forest, member.isContainer = true ∧ member.entry.childPath = path := by
  simp [Forest.owners, and_assoc]

theorem Forest.mem_owners_append {first second : Forest} {path : Ancestry} :
    path ∈ Forest.owners (first ++ second) ↔ path ∈ first.owners ∨ path ∈ second.owners := by
  simp [Forest.owners]

theorem Forest.mem_owners_of_perm {first second : Forest} (h : first ~ second)
    {path : Ancestry} : path ∈ first.owners ↔ path ∈ second.owners := by
  simp only [Forest.mem_owners, h.mem_iff]

theorem Forest.Listed.perm {first second : Forest} (h : second.Listed) (hperm : first ~ second) :
    first.Listed := by
  intro member hmember
  exact (h member (hperm.mem_iff.1 hmember)).mono fun path => (Forest.mem_owners_of_perm hperm).2

/-- A child path tells the container and where that is declared. -/
theorem Ancestry.child_inj {path path' : Ancestry} {name name' : String} :
    path.child name = path'.child name' ↔ path = path' ∧ name = name' := by
  constructor
  · intro h
    unfold Ancestry.child at h
    rw [Ancestry.mk.injEq] at h
    obtain ⟨htypes, hname⟩ := List.append_inj' h.2 rfl
    obtain ⟨namespaces, types⟩ := path
    exact ⟨congrArg₂ Ancestry.mk h.1 htypes, List.head_eq_of_cons_eq hname⟩
  · rintro ⟨rfl, rfl⟩
    rfl

/-- No container is its own owner: the child path is longer than the ancestry. -/
theorem Entry.childPath_ne_parent (entry : Entry) : entry.childPath ≠ entry.parent := by
  intro h
  have hlength := congrArg (fun path : Ancestry => path.types.length) h
  simp [Entry.childPath, Ancestry.child] at hlength

/-! ## Lines -/

/-- Members in the order of their first lines. -/
def Forest.InLineOrder (forest : Forest) : Prop :=
  forest.Pairwise fun first second => first.startLine ≤ second.startLine

/-- An entry that ends no earlier than it begins. -/
def Entry.Upright (entry : Entry) : Prop :=
  ∀ last, entry.endLine = some last → entry.startLine ≤ last

theorem Entry.Upright.le_lastLine {entry : Entry} (h : entry.Upright) :
    entry.startLine ≤ entry.lastLine := by
  rw [Entry.lastLine]
  cases hlast : entry.endLine with
  | none => exact Nat.le_refl _
  | some last => exact h last hlast

/-- A member whose children are in the order of lines, and in which every entry ends no
earlier than it begins. -/
structure Member.Settled (member : Member) : Prop where
  ordered : member.children.InLineOrder
  upright : ∀ entry ∈ member.entries, entry.Upright

theorem Member.Settled.leaf {entry : Entry} (h : entry.Upright) : (Member.leaf entry).Settled := by
  refine ⟨List.Pairwise.nil, ?_⟩
  intro other hother
  rw [List.mem_singleton.1 hother]
  exact h

/-- A member is settled if its entry is upright and its children are settled and in
order. -/
theorem Member.Settled.of_children {member : Member} (hentry : member.entry.Upright)
    (hordered : member.children.InLineOrder)
    (hchildren : ∀ child ∈ member.children, child.Settled) : member.Settled := by
  refine ⟨hordered, ?_⟩
  intro entry hmem
  rw [Member.entries_eq, Forest.entries_eq_flatMap] at hmem
  rcases List.mem_cons.1 hmem with rfl | hmem
  · exact hentry
  · obtain ⟨child, hchild, hmem⟩ := List.mem_flatMap.1 hmem
    exact (hchildren child hchild).upright entry hmem

theorem Member.Settled.entry {member : Member} (h : member.Settled) : member.entry.Upright := by
  refine h.upright _ ?_
  rw [Member.entries_eq]
  exact List.mem_cons_self

theorem Forest.inLineOrder_sortByLine (forest : Forest) : forest.sortByLine.InLineOrder := by
  have htrans : ∀ a b c : Member, decide (a.startLine ≤ b.startLine) = true →
      decide (b.startLine ≤ c.startLine) = true → decide (a.startLine ≤ c.startLine) = true := by
    intro a b c hab hbc
    simp only [decide_eq_true_eq] at hab hbc ⊢
    omega
  have htotal : ∀ a b : Member,
      (decide (a.startLine ≤ b.startLine) || decide (b.startLine ≤ a.startLine)) = true := by
    intro a b
    simp only [Bool.or_eq_true, decide_eq_true_eq]
    omega
  exact (List.pairwise_mergeSort htrans htotal forest).imp of_decide_eq_true

/-! ## The contract -/

/-- **A well-formed shallow forest.** -/
structure Forest.WellFormed (forest : Forest) : Prop where
  ordered : forest.Pairwise fun first second => first.startLine ≤ second.startLine
  children : ∀ container ∈ forest, container.isContainer = true →
    ∀ child ∈ container.children, child.isContainer = false ∧ child.entry.kind ≠ .region
      ∧ child.entry.parent = container.entry.childPath
  childrenOrdered : ∀ container ∈ forest, container.isContainer = true →
    container.children.Pairwise fun first second => first.startLine ≤ second.startLine
  loose : ∀ member ∈ forest, member.isContainer = false → member.entry.parent = .root
  owned : ∀ container ∈ forest, container.isContainer = true →
    container.entry.parent.types = []
    ∨ ∃ owner ∈ forest, owner ≠ container ∧ owner.isContainer = true
      ∧ owner.entry.childPath = container.entry.parent
  upright : ∀ entry ∈ forest.entries, ∀ last, entry.endLine = some last → entry.startLine ≤ last

theorem Forest.Listed.wellFormed {forest : Forest} (h : forest.Listed)
    (hordered : forest.InLineOrder) (hsettled : ∀ member ∈ forest, member.Settled) :
    forest.WellFormed where
  ordered := hordered
  children := by
    intro container hcontainer hkind child hchild
    have hdirect := (h container hcontainer).children hkind child hchild
    exact ⟨hdirect.plain, hdirect.unmarked, hdirect.parent⟩
  childrenOrdered := fun container hcontainer _ => (hsettled container hcontainer).ordered
  loose := fun member hmember => (h member hmember).loose
  owned := by
    intro container hcontainer hkind
    refine ((h container hcontainer).owned hkind).imp id fun howner => ?_
    obtain ⟨owner, howner, hkind', hpath⟩ := Forest.mem_owners.1 howner
    -- The owner is another container, since its child path is longer than its ancestry.
    refine ⟨owner, howner, ?_, hkind', hpath⟩
    rintro rfl
    exact owner.entry.childPath_ne_parent hpath
  upright := by
    intro entry hentry
    rw [Forest.entries_eq_flatMap] at hentry
    obtain ⟨member, hmember, hentry⟩ := List.mem_flatMap.1 hentry
    exact (hsettled member hmember).upright entry hentry

theorem Forest.WellFormed.listed {forest : Forest} (h : forest.WellFormed) : forest.Listed := by
  intro member hmember
  refine ⟨fun hkind child hchild => ?_, h.loose member hmember, fun hkind => ?_⟩
  · obtain ⟨hplain, hunmarked, hparent⟩ := h.children member hmember hkind child hchild
    exact ⟨hplain, hunmarked, hparent⟩
  · refine (h.owned member hmember hkind).imp id ?_
    rintro ⟨owner, howner, -, howns, hpath⟩
    exact Forest.mem_owners.2 ⟨owner, howner, howns, hpath⟩

/-- A mapper that sorts what it has found needs to know nothing about the lines of
containers. -/
theorem Forest.Listed.wellFormed_sortByLine {forest : Forest} (h : forest.Listed)
    (hsettled : ∀ member ∈ forest, member.Settled) : forest.sortByLine.WellFormed := by
  refine (h.perm forest.sortByLine_perm).wellFormed forest.inLineOrder_sortByLine ?_
  intro member hmember
  exact hsettled member (forest.sortByLine_perm.mem_iff.1 hmember)

end SourceOutline
