/-
The members of a text that is read line by line.

A forest is put together from the declarations the scan has found. Each of them is kept: it
becomes a container, a loose member, or a member of the container its qualifiers name, and
that one is there because it is supplied first (`exists_mem_supply`). Nothing else is added
but what is supplied. So the entries of a forest are those of the declarations together with
those of supplied containers, however often a name is declared (`Parts.entries_add`).

The lines of the declarations, their columns, the ends of their blocks and their qualified
names are those the indentations give (`byIndentation_scan`).
-/
import SourceOutline.Proofs.Forest
import SourceOutline.Proofs.Indentation

set_option autoImplicit false

namespace SourceOutline.LineScan

open scoped List

variable {σ : Type} (blocks : List Block)

/-! ## Containers -/

/-- The entries that containers come to. -/
def heldBy (containers : List Container) : List Entry :=
  Forest.entries (containers.map Container.member)

theorem heldBy_cons (container : Container) (rest : List Container) :
    heldBy (container :: rest) = container.member.entries ++ heldBy rest := rfl

theorem entries_member_perm (container : Container) :
    container.member.entries ~ container.entry :: Forest.entries container.members := by
  rw [Container.member, Member.entries]
  exact (Forest.entries_perm (List.reverse_perm _)).cons _

/-- What is supplied for a name are containers for some of its first segments, with nothing in
them yet. -/
theorem exists_heldBy_supply (line : Nat) (containers : List Container) (segments : List String) :
    ∃ more, heldBy (supply blocks line containers segments) = more ++ heldBy containers
      ∧ ∀ entry ∈ more, entry.kind = .genericType
        ∧ entry.childPath.types <+: segments.reverse := by
  induction segments with
  | nil => exact ⟨[], rfl, List.forall_mem_nil _⟩
  | cons name outer ih =>
    rw [supply]
    split
    · exact ⟨[], rfl, List.forall_mem_nil _⟩
    · obtain ⟨more, hmore, hentries⟩ := ih
      refine ⟨(supplied blocks line name outer.reverse).entry :: more, ?_,
        List.forall_mem_cons.2 ⟨⟨rfl, ?_⟩, ?_⟩⟩
      · rw [heldBy_cons, hmore]
        rfl
      · rw [List.reverse_cons]
        exact List.prefix_rfl
      · intro entry hentry
        obtain ⟨hkind, hpath⟩ := hentries entry hentry
        rw [List.reverse_cons]
        exact ⟨hkind, hpath.trans (List.prefix_append _ _)⟩

/-- A member is not lost if there is a container to take it. -/
theorem heldBy_addMember {name : QualifiedName} (member : Member) {containers : List Container}
    (h : ∃ container ∈ containers, container.name = name) :
    heldBy (addMember name member containers) ~ member.entries ++ heldBy containers := by
  induction containers with
  | nil =>
    obtain ⟨container, hcontainer, -⟩ := h
    cases hcontainer
  | cons first rest ih =>
    rw [addMember]
    split
    · -- The newest member stands in front of those the container has.
      have hnew := entries_member_perm { first with members := member :: first.members }
      rw [heldBy_cons, heldBy_cons, ← List.append_assoc]
      refine List.Perm.append_right _ (hnew.trans ?_)
      refine List.Perm.trans ?_ ((entries_member_perm first).symm.append_left _)
      exact List.perm_middle.symm
    · rename_i hother
      have hrest : ∃ container ∈ rest, container.name = name := by
        obtain ⟨container, hcontainer, rfl⟩ := h
        rcases List.mem_cons.1 hcontainer with rfl | hcontainer
        · exact absurd (beq_self_eq_true _) hother
        · exact ⟨container, hcontainer, rfl⟩
      rw [heldBy_cons, heldBy_cons]
      refine ((ih hrest).append_left _).trans ?_
      exact List.perm_append_comm_assoc _ _ _

/-! ## Declarations one after the other -/

/-- The entries of a forest under construction. -/
def Parts.entries (parts : Parts) : List Entry :=
  heldBy parts.containers ++ Forest.entries parts.loose

/-- One declaration adds its entry beside those that are supplied for it. -/
theorem Parts.entries_add_of_supply (parts : Parts) (found : Found) {more : List Entry}
    (hmore : heldBy (supply blocks found.line parts.containers found.name.dropLast.reverse)
      = more ++ heldBy parts.containers) :
    (parts.add blocks found).entries ~ found.entry blocks :: (more ++ parts.entries) := by
  have hleaf : (Member.leaf (found.entry blocks)).entries = [found.entry blocks] := rfl
  rw [Parts.add]
  -- A container of its own, a loose member, or a member of the container that is supplied.
  split
  · rw [Parts.entries, heldBy_cons, hmore, Parts.entries, List.append_assoc, List.append_assoc]
    exact .refl _
  · split
    · rw [Parts.entries, Forest.entries, hmore, hleaf, Parts.entries, List.append_assoc,
        List.singleton_append, ← List.append_assoc, ← List.append_assoc]
      exact List.perm_middle
    · rename_i hqualifiers
      have hthere := exists_mem_supply blocks found.line parts.containers
        (List.isEmpty_eq_false_iff.1 (Bool.eq_false_iff.2 hqualifiers))
      have hadd := heldBy_addMember (.leaf (found.entry blocks)) hthere
      rw [hmore, hleaf] at hadd
      rw [Parts.entries, Parts.entries, ← List.append_assoc, ← List.cons_append]
      exact hadd.append_right _

/-- **One declaration** adds its entry and those of what is supplied for it. -/
theorem Parts.entries_add (parts : Parts) (found : Found) :
    ∃ more, (parts.add blocks found).entries ~ found.entry blocks :: (more ++ parts.entries)
      ∧ ∀ entry ∈ more, entry.kind = .genericType
        ∧ entry.childPath.types <+: (found.entry blocks).parent.types := by
  obtain ⟨more, hmore, hentries⟩ :=
    exists_heldBy_supply blocks found.line parts.containers found.name.dropLast.reverse
  rw [List.reverse_reverse] at hentries
  exact ⟨more, parts.entries_add_of_supply blocks found hmore, hentries⟩

/-- An entry of a container that no line declares, supplied for what others are declared in. -/
structure SuppliedFor (declared : List Entry) (entry : Entry) : Prop where
  kind : entry.kind = .genericType
  needed : ∃ other ∈ declared, entry.childPath.types <+: other.parent.types

/-- **All declarations.** -/
theorem Parts.entries_addAll (parts : Parts) (found : List Found) :
    ∃ more, (found.foldl (Parts.add blocks) parts).entries
        ~ found.map (Found.entry blocks) ++ more ++ parts.entries
      ∧ ∀ entry ∈ more, SuppliedFor (found.map (Found.entry blocks)) entry := by
  induction found generalizing parts with
  | nil => exact ⟨[], .refl _, List.forall_mem_nil _⟩
  | cons first rest ih =>
    obtain ⟨more, hmore, hfirst⟩ := parts.entries_add blocks first
    obtain ⟨others, hothers, hrest⟩ := ih (parts.add blocks first)
    refine ⟨others ++ more, ?_, ?_⟩
    · calc
        _ ~ rest.map (Found.entry blocks) ++ others ++ (parts.add blocks first).entries := hothers
        _ ~ rest.map (Found.entry blocks) ++ others
              ++ first.entry blocks :: (more ++ parts.entries) := hmore.append_left _
        _ ~ first.entry blocks :: (rest.map (Found.entry blocks) ++ others
              ++ (more ++ parts.entries)) := List.perm_middle
        _ = _ := by simp
    · refine List.forall_mem_append.2 ⟨fun entry hentry => ?_, fun entry hentry => ?_⟩
      · obtain ⟨hkind, other, hother, hpath⟩ := hrest entry hentry
        exact ⟨hkind, other, List.mem_cons_of_mem _ hother, hpath⟩
      · obtain ⟨hkind, hpath⟩ := hfirst entry hentry
        exact ⟨hkind, _, List.mem_cons_self, hpath⟩

/-- The forest has the entries that were put together. -/
theorem entries_structured_perm (found : List Found) :
    (structured blocks found).entries ~ (found.foldl (Parts.add blocks) {}).entries := by
  rw [structured]
  generalize found.foldl (Parts.add blocks) {} = parts
  refine (Forest.entries_sortByLine _).trans ?_
  rw [Parts.entries, heldBy, ← Forest.entries_append]
  exact Forest.entries_perm
    (((List.reverse_perm _).map _).append (List.reverse_perm _))

theorem entries_structured (found : List Found) :
    ∃ more, (structured blocks found).entries ~ found.map (Found.entry blocks) ++ more
      ∧ ∀ entry ∈ more, SuppliedFor (found.map (Found.entry blocks)) entry := by
  obtain ⟨more, hmore, hentries⟩ := Parts.entries_addAll blocks {} found
  have hnone : Parts.entries {} = [] := rfl
  rw [hnone, List.append_nil] at hmore
  exact ⟨more, (entries_structured_perm blocks found).trans hmore, hentries⟩

/-! ## Lines and members -/

/-- The entry of a declaration, told from the lines of the text alone. -/
structure EntryOf (rows : List (Option Row)) (declared : DeclarationLine) (entry : Entry) :
    Prop where
  kind : entry.kind = declared.declaration.kind
  signature : entry.signature = declared.declaration.signature
  startLine : entry.startLine = declared.line
  column : entry.column = declared.column
  /-- It reaches to the end of the block of its line. -/
  endLine : ∃ last, entry.endLine = some last ∧ ∀ other, EndsAt rows declared.line other ↔ other = last
  /-- Its qualified name is what is declared in it has for an ancestry. -/
  name : ∀ other, QualifiedAs rows declared.line declared.declaration.name other
    ↔ other = entry.childPath.render

theorem render_ancestryOf (qualifiers : QualifiedName) :
    (ancestryOf qualifiers).render = joinTexts "." qualifiers := by
  have hnone : (joinTexts "." []).isEmpty = true := by decide
  rw [Ancestry.render, ancestryOf]
  dsimp only
  rw [if_pos hnone]

variable {blocks}

theorem FoundOn.entryOf {rows : List (Option Row)} {declared : DeclarationLine} {found : Found}
    (h : FoundOn rows declared found)
    (hended : ∀ block ∈ blocks, EndsAt rows block.first block.last)
    (hcovered : ∃ block ∈ blocks, block.first = found.line) :
    EntryOf rows declared (found.entry blocks) := by
  obtain ⟨-, hline, hcolumn, hdeclaration, hne, hqualified⟩ := h
  have hend := endsAt_lastLineOf hended hcovered
  rw [hline] at hend
  refine ⟨congrArg Declaration.kind hdeclaration, congrArg Declaration.signature hdeclaration,
    hline, hcolumn, ⟨_, rfl, ?_⟩, ?_⟩
  · intro other
    rw [hline]
    exact ⟨fun hother => hother.unique hend, fun heq => heq ▸ hend⟩
  · intro other
    rw [Found.childPath_entry blocks hne, render_ancestryOf]
    exact ⟨fun hother => hother.unique hqualified, fun heq => heq ▸ hqualified⟩

/-- **The members of a text.** Whatever its lines are taken for, the forest holds one member for
each line that declares something, with the place, the end and the qualified name that the
indentations give, and apart from these only containers that are supplied for them. -/
theorem forest_holds_each_declaration (classifier : Classifier σ) (source : String) :
    ∃ declared more, (forest classifier source).entries ~ declared ++ more
      ∧ List.Forall₂ (EntryOf (classifier.rows classifier.initial (Text.lines source)))
          (declarationLines (classifier.rows classifier.initial (Text.lines source))) declared
      ∧ ∀ entry ∈ more, SuppliedFor declared entry := by
  have hscan := byIndentation_scan classifier source
  rw [forest]
  generalize scan classifier source = scanned at hscan
  obtain ⟨found, blocks⟩ := scanned
  obtain ⟨more, hmore, hsupplied⟩ := entries_structured blocks found
  refine ⟨found.map (Found.entry blocks), more, hmore, ?_, hsupplied⟩
  refine List.forall₂_map_right_iff.2 (hscan.found.imp fun declared hit hfound => ?_)
  refine hfound.entryOf hscan.ended ?_
  rw [hfound.line]
  exact hscan.covered _ _ hfound.there (by simp)

end SourceOutline.LineScan
