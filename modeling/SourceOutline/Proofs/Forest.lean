/-
What the stages after the mapper keep of a forest. Sorting permutes siblings,
nesting moves containers under their owners and emission leaves members out; an
entry is never changed on the way, and never copied.

All of it is said about `Forest.entries`, the entries in preorder. Nesting gives a
permutation of them (`Forest.nest_entries_perm`), and the rows of an outline are a
part of them up to order (`Forest.emit_eq_map`), in both orders of a level. A
statement about the rows of an outline therefore needs no look at the options: it
follows from the same statement about the entries of the forest.
-/
import Mathlib.Data.List.Flatten
import Mathlib.Data.List.Perm.Subperm
import SourceOutline.Outline.Emission
import SourceOutline.Outline.Nesting

set_option autoImplicit false

namespace SourceOutline

open scoped List

/-! ## Entries in preorder -/

/-- The preorder of a forest is that of its members, one after the other. -/
theorem Forest.entries_eq_flatMap (forest : Forest) :
    forest.entries = forest.flatMap Member.entries := by
  induction forest with
  | nil => rfl
  | cons member rest ih => rw [Forest.entries, ih, List.flatMap_cons]

theorem Forest.entries_append (first second : Forest) :
    Forest.entries (first ++ second) = first.entries ++ second.entries := by
  simp only [Forest.entries_eq_flatMap, List.flatMap_append]

/-- The order of siblings does not matter for which entries there are. -/
theorem Forest.entries_perm {first second : Forest} (h : first ~ second) :
    first.entries ~ second.entries := by
  simp only [Forest.entries_eq_flatMap]
  exact h.flatMap_right _

theorem Forest.sortByLine_perm (forest : Forest) : forest.sortByLine ~ forest :=
  List.mergeSort_perm _ _

theorem Forest.entries_sortByLine (forest : Forest) :
    forest.sortByLine.entries ~ forest.entries :=
  Forest.entries_perm forest.sortByLine_perm

mutual

theorem Member.entries_mapEntries (f : Entry → Entry) :
    (member : Member) → (member.mapEntries f).entries = member.entries.map f
  | .node entry children => by
    rw [Member.mapEntries, Member.entries, Forest.entries_mapEntries f children, Member.entries,
      List.map_cons]

theorem Forest.entries_mapEntries (f : Entry → Entry) :
    (forest : Forest) → (forest.mapEntries f).entries = forest.entries.map f
  | [] => rfl
  | member :: rest => by
    rw [Forest.mapEntries, Forest.entries, Member.entries_mapEntries f member,
      Forest.entries_mapEntries f rest, Forest.entries, List.map_append]

end

theorem Forest.mapEntries_eq_map (f : Entry → Entry) (forest : Forest) :
    forest.mapEntries f = forest.map (Member.mapEntries f) := by
  induction forest with
  | nil => rfl
  | cons member rest ih => rw [Forest.mapEntries, ih, List.map_cons]

theorem Member.entry_mapEntries (f : Entry → Entry) (member : Member) :
    (member.mapEntries f).entry = f member.entry := by
  cases member with
  | node entry children => rfl

theorem Member.children_mapEntries (f : Entry → Entry) (member : Member) :
    (member.mapEntries f).children = member.children.map (Member.mapEntries f) := by
  cases member with
  | node entry children => exact Forest.mapEntries_eq_map f children

mutual

theorem Member.mapEntries_id : (member : Member) → member.mapEntries id = member
  | .node entry children => by
    unfold Member.mapEntries
    rw [Forest.mapEntries_id children]
    rfl

theorem Forest.mapEntries_id : (forest : Forest) → forest.mapEntries id = forest
  | [] => rfl
  | member :: rest => by
    unfold Forest.mapEntries
    rw [Member.mapEntries_id member, Forest.mapEntries_id rest]

end

mutual

theorem Member.mapEntries_mapEntries (f g : Entry → Entry) :
    (member : Member) → (member.mapEntries f).mapEntries g = member.mapEntries (g ∘ f)
  | .node entry children => by
    simp only [Member.mapEntries, Forest.mapEntries_mapEntries f g children, Function.comp_apply]

theorem Forest.mapEntries_mapEntries (f g : Entry → Entry) :
    (forest : Forest) →
      Forest.mapEntries g (forest.mapEntries f) = forest.mapEntries (g ∘ f)
  | [] => rfl
  | member :: rest => by
    simp only [Forest.mapEntries, Member.mapEntries_mapEntries f g member,
      Forest.mapEntries_mapEntries f g rest]

end

/-- A change of entries that keeps which of two begins first. -/
def KeepsOrder (f : Entry → Entry) : Prop :=
  ∀ first second : Entry,
    (f first).startLine ≤ (f second).startLine ↔ first.startLine ≤ second.startLine

/-- Such a change may be made before a sort or after it. -/
theorem KeepsOrder.sortByLine_map {f : Entry → Entry} (hf : KeepsOrder f) (forest : Forest) :
    Forest.sortByLine (forest.map (Member.mapEntries f))
      = forest.sortByLine.map (Member.mapEntries f) := by
  refine (List.map_mergeSort ?_).symm
  intro first _ second _
  rw [Member.startLine, Member.startLine, Member.startLine, Member.startLine,
    Member.entry_mapEntries, Member.entry_mapEntries, decide_eq_decide]
  exact (hf first.entry second.entry).symm

/-! ## Nesting

The pool of waiting containers and the members that adopt from it are one
multiset of entries, which every step leaves as it is. The bound on the depth
plays no part: where it cuts an adoption short, the pool keeps its members. -/

/-- If a single adoption keeps the entries of member and pool together, so does one
adoption after the other. -/
theorem adoptEach_entries_perm {adopt : Member → Forest → Member × Forest}
    (hadopt : ∀ member pool,
      (adopt member pool).1.entries ++ (adopt member pool).2.entries
        ~ member.entries ++ pool.entries)
    (forest pool : Forest) :
    (adoptEach adopt forest pool).1.entries ++ (adoptEach adopt forest pool).2.entries
      ~ forest.entries ++ pool.entries := by
  induction forest generalizing pool with
  | nil => exact .refl _
  | cons member rest ih =>
    rw [adoptEach, Forest.entries, Forest.entries, List.append_assoc, List.append_assoc]
    calc
      _ ~ ((adopt member pool).1.entries ++ (Forest.entries rest ++ (adopt member pool).2.entries)) :=
        (ih _).append_left _
      _ ~ (Forest.entries rest ++ ((adopt member pool).1.entries ++ (adopt member pool).2.entries)) :=
        List.perm_append_comm_assoc _ _ _
      _ ~ (Forest.entries rest ++ (member.entries ++ pool.entries)) := (hadopt member pool).append_left _
      _ ~ (member.entries ++ (Forest.entries rest ++ pool.entries)) :=
        List.perm_append_comm_assoc _ _ _

/-- The two parts of a forest hold the entries of the whole. -/
theorem Forest.entries_partition (p : Member → Bool) (forest : Forest) :
    Forest.entries (forest.partition p).1 ++ Forest.entries (forest.partition p).2 ~ forest.entries := by
  rw [List.partition_eq_filter_filter, ← Forest.entries_append]
  exact Forest.entries_perm (List.filter_append_perm p forest)

theorem Member.entries_eq (member : Member) :
    member.entries = member.entry :: member.children.entries := by
  cases member with
  | node entry children => rfl

theorem Forest.mem_entries_of_mem {forest : Forest} {member : Member} (h : member ∈ forest)
    {entry : Entry} (hentry : entry ∈ member.entries) : entry ∈ forest.entries := by
  rw [Forest.entries_eq_flatMap]
  exact List.mem_flatMap.2 ⟨member, h, hentry⟩

theorem Member.entry_mem_entries (member : Member) : member.entry ∈ member.entries := by
  rw [Member.entries_eq]
  exact List.mem_cons_self

/-- What a container takes out of the pool is what it has more afterwards. -/
theorem adopt_entries_perm (depth : Nat) (parent : Member) (pool : Forest) :
    (adopt depth parent pool).1.entries ++ (adopt depth parent pool).2.entries
      ~ parent.entries ++ pool.entries := by
  induction depth generalizing parent pool with
  | zero => exact .refl _
  | succ depth ih =>
    rw [adopt]
    split
    · have hsplit := Forest.entries_partition
        (fun member => member.entry.parent == parent.entry.childPath) pool
      dsimp only
      generalize List.partition _ pool = parts at hsplit ⊢
      obtain ⟨mine, rest⟩ := parts
      dsimp only at hsplit ⊢
      split
      · rename_i hempty
        rw [List.isEmpty_iff.1 hempty] at hsplit
        exact hsplit.append_left _
      · have hmine := adoptEach_entries_perm ih mine rest
        rw [Member.entries, Member.entries_eq parent, List.cons_append, List.cons_append]
        refine List.Perm.cons _ ?_
        calc
          _ ~ (Forest.entries (parent.children ++ (adoptEach (adopt depth) mine rest).1)
              ++ (adoptEach (adopt depth) mine rest).2.entries) :=
            (Forest.entries_sortByLine _).append_right _
          _ ~ (parent.children.entries ++ (Forest.entries mine ++ Forest.entries rest)) := by
            rw [Forest.entries_append, List.append_assoc]
            exact hmine.append_left _
          _ ~ (parent.children.entries ++ pool.entries) := hsplit.append_left _
    · exact .refl _

/-- **Nesting keeps every entry.** The entries of the nested forest are those there
were, each as often as before. -/
theorem Forest.nest_entries_perm (forest : Forest) : forest.nest.entries ~ forest.entries := by
  rw [Forest.nest]
  have hsplit := Forest.entries_partition
    (fun member => member.isContainer && forest.owners.contains member.entry.parent) forest
  dsimp only
  generalize List.partition _ forest = parts at hsplit ⊢
  obtain ⟨pool, roots⟩ := parts
  dsimp only at hsplit ⊢
  calc
    _ ~ (Forest.entries ((adoptEach (adopt (pool.length + 1)) roots pool).1
        ++ (adoptEach (adopt (pool.length + 1)) roots pool).2)) := Forest.entries_sortByLine _
    _ ~ (Forest.entries roots ++ Forest.entries pool) := by
      rw [Forest.entries_append]
      exact adoptEach_entries_perm (adopt_entries_perm _) roots pool
    _ ~ (Forest.entries pool ++ Forest.entries roots) := List.perm_append_comm
    _ ~ forest.entries := hsplit

/-! ## Emission

A level in title order is made of five filters of its blocks, by kinds that
exclude each other, so together they take no block twice. -/

/-- Two filters that exclude each other take together what one filter takes. -/
theorem filter_append_filter_perm {α : Type} {p q : α → Bool}
    (hexclude : ∀ a, q a = true → p a = false) (l : List α) :
    l.filter p ++ l.filter q ~ l.filter (fun a => p a || q a) := by
  induction l with
  | nil => exact .refl _
  | cons a l ih =>
    by_cases hq : q a = true
    · have hp := hexclude a hq
      simp only [List.filter_cons, hp, hq, Bool.or_true, if_true, Bool.false_eq_true, if_false]
      exact List.perm_middle.trans (ih.cons a)
    · simp only [List.filter_cons, hq, Bool.or_false, Bool.false_eq_true, if_false]
      by_cases hp : p a = true
      · simp only [hp, if_true]
        exact ih.cons a
      · simp only [hp, Bool.false_eq_true, if_false]
        exact ih

theorem sortBlocks_perm (blocks : List Block) : sortBlocks blocks ~ blocks :=
  List.mergeSort_perm _ _

/-- In title order a level has the blocks it had, except those of markers. -/
theorem sortLevel_perm (blocks : List Block) :
    sortLevel blocks ~ blocks.filter fun block => block.entry.kind != .region := by
  have hkind : ∀ (kind : Kind) (p : Kind → Bool) (l : List Block),
      l ~ blocks.filter (fun block => p block.entry.kind) → p kind = false →
      l ++ sortedOfKind kind blocks
        ~ blocks.filter (fun block => p block.entry.kind || block.entry.kind == kind) := by
    intro kind p l hl hexclude
    refine (hl.append (sortBlocks_perm _)).trans (filter_append_filter_perm ?_ blocks)
    intro block hq
    rw [eq_of_beq hq, hexclude]
  have hconstructors : sortedOfKind .constructor blocks
      ~ blocks.filter (fun block => block.entry.kind == .constructor) := sortBlocks_perm _
  have hmethods := hkind .method (· == .constructor) _ hconstructors rfl
  have hproperties := hkind .property (fun k => k == .constructor || k == .method) _ hmethods rfl
  have hfields := hkind .field (fun k => (k == .constructor || k == .method) || k == .property) _
    hproperties rfl
  have hcontainer : ∀ kind : Kind, kind.isContainer = true →
      (((kind == .constructor || kind == .method) || kind == .property) || kind == .field)
        = false := by
    intro kind
    cases kind <;> decide
  -- Every kind but that of markers has a group.
  have hall : ∀ kind : Kind, ((((kind == .constructor || kind == .method) || kind == .property)
      || kind == .field) || kind.isContainer) = (kind != .region) := by
    intro kind
    cases kind <;> decide
  have hlevel := (hfields.append (sortBlocks_perm _)).trans
    (filter_append_filter_perm (fun block => hcontainer block.entry.kind) blocks)
  simp only [hall] at hlevel
  exact hlevel

/-- In title order a level has no block more often than before. -/
theorem sortLevel_subperm (blocks : List Block) : sortLevel blocks <+~ blocks :=
  (sortLevel_perm blocks).subperm.trans List.filter_sublist.subperm

/-- The order of a level takes nothing twice, whichever it is. -/
theorem arrange_subperm (options : Options) (blocks : List Block) :
    arrange options blocks <+~ blocks.flatMap Block.rows := by
  rw [arrange]
  split
  · obtain ⟨kept, hperm, hsub⟩ := sortLevel_subperm blocks
    exact ⟨kept.flatMap Block.rows, hperm.flatMap_right _, hsub.flatMap _⟩
  · exact .refl _

theorem leafRows_subperm (options : Options) (loose : Bool) (member : Member) :
    leafRows options loose member.entry <+~ member.entries := by
  rw [leafRows, Member.entries_eq]
  split
  · exact ⟨_, .refl _, List.cons_sublist_cons.2 (List.nil_sublist _)⟩
  · exact List.nil_subperm

mutual

/-- A container shows its own entry and entries from below it, none twice. -/
theorem Member.rows_subperm (options : Options) (filter : Option String) :
    (member : Member) → member.rows options filter <+~ member.entries
  | .node entry children => by
    rw [Member.rows, Member.entries]
    split
    · exact (List.subperm_cons _).2
        ((arrange_subperm options _).trans (Forest.blocks_subperm options filter _ children))
    · exact List.nil_subperm

theorem Forest.blocks_subperm (options : Options) (filter : Option String) (loose : Bool) :
    (forest : Forest) → (forest.blocks options filter loose).flatMap Block.rows <+~ forest.entries
  | [] => .refl _
  | member :: rest => by
    rw [Forest.blocks, List.flatMap_cons, Forest.entries]
    have hrest := Forest.blocks_subperm options filter loose rest
    have hmember : (if member.isContainer then member.rows options filter
        else leafRows options loose member.entry) <+~ member.entries := by
      split
      · exact Member.rows_subperm options filter member
      · exact leafRows_subperm options loose member
    exact hmember.append hrest

end

/-- **The rows of an outline.** They are the items of entries of the forest, none
more often than it is there. -/
theorem Forest.emit_eq_map (forest : Forest) (options : Options) (encodesContainment : Bool) :
    ∃ rows, rows <+~ forest.entries
      ∧ forest.emit options encodesContainment = rows.map Entry.item := by
  refine ⟨_, ?_, rfl⟩
  exact (arrange_subperm options _).trans (Forest.blocks_subperm options _ _ forest)

end SourceOutline
