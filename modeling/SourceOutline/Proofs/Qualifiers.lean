/-
What a dotted name makes of a forest.

A declaration comes under a qualified name, and the segments before the last one name the
containers around it. They are looked up from the inside out, and what is missing is supplied, so
when a name is there all names around it are there too. A container is therefore supplied for a
name at most once, and only when a declaration has use for the name before any line has declared
a container of it (`Introduces`).

The invariant goes along the declarations: the entries so far are those of the declarations and
those supplied for first uses (`Supplied`). One more declaration has the first use of exactly
those of its qualifiers that have no container yet (`exists_names_supplied`), and what has a
container can be told from the declarations before (`Parts.Traced`).
-/
import SourceOutline.Proofs.Containment

set_option autoImplicit false

namespace SourceOutline.LineScan

open scoped List

variable (blocks : List Block)

/-! ## One declaration -/

/-- What is supplied for a name and those around it are containers of the names that have none
yet, one for each. The induction follows the names outwards. It ends at the first one that is
there, since everything around that is there as well. -/
theorem exists_names_supplied (line : Nat) {containers : List Container}
    (h : ClosedOutwards containers) (segments : List String) :
    ∃ names : List QualifiedName,
      heldBy (supply blocks line containers segments)
        = names.map (suppliedEntry blocks line) ++ heldBy containers
      ∧ names.Nodup
      ∧ ∀ name, name ∈ names
        ↔ name ≠ [] ∧ name <+: segments.reverse ∧ holder? containers name = none := by
  induction segments with
  | nil =>
    refine ⟨[], rfl, List.nodup_nil, fun name => ?_⟩
    simp only [List.not_mem_nil, List.reverse_nil, List.prefix_nil, false_iff, not_and]
    exact fun hne hnil => absurd hnil hne
  | cons segment outer ih =>
    rw [supply]
    split
    · -- What is there stands in containers that are there, so nothing is missing.
      rename_i hthere
      rw [hasContainer_eq_isSome] at hthere
      refine ⟨[], rfl, List.nodup_nil, fun name => ?_⟩
      simp only [List.not_mem_nil, false_iff, not_and]
      intro hne hprefix hnone
      have hsome := h _ name hthere hne hprefix
      rw [hnone] at hsome
      cases hsome
    · rename_i hmissing
      rw [hasContainer_eq_isSome, Bool.not_eq_true, Option.isSome_eq_false_iff,
        Option.isNone_iff_eq_none] at hmissing
      obtain ⟨names, hheld, hnodup, hnames⟩ := ih
      rw [List.reverse_cons] at hmissing ⊢
      -- The names around it are shorter, so this one is not among them.
      have hnew : outer.reverse ++ [segment] ∉ names := by
        intro hmem
        have hle := ((hnames _).1 hmem).2.1.length_le
        rw [List.length_append, List.length_singleton] at hle
        omega
      refine ⟨(outer.reverse ++ [segment]) :: names, ?_, List.nodup_cons.2 ⟨hnew, hnodup⟩, ?_⟩
      · have hentry : suppliedEntry blocks line (outer.reverse ++ [segment])
            = (supplied blocks line segment outer.reverse).entry := by
          unfold suppliedEntry
          rw [List.getLast?_concat, List.dropLast_concat, Option.getD_some]
        rw [heldBy_cons, hheld, List.map_cons, hentry]
        rfl
      · intro name
        rw [List.mem_cons, hnames, List.prefix_concat_iff]
        constructor
        · rintro (rfl | ⟨hne, hprefix, hnone⟩)
          · exact ⟨by simp, .inl rfl, hmissing⟩
          · exact ⟨hne, .inr hprefix, hnone⟩
        · rintro ⟨hne, rfl | hprefix, hnone⟩
          · exact .inl rfl
          · exact .inr ⟨hne, hprefix, hnone⟩

/-! ## First uses -/

/-- The first element that needs something, if nothing before it provides that. -/
def FirstInNeed {α : Type} (needs provides : α → Prop) (elements : List α) (user : α) : Prop :=
  ∃ earlier later, elements = earlier ++ user :: later ∧ needs user
    ∧ ∀ other ∈ earlier, ¬needs other ∧ ¬provides other

section FirstInNeed

variable {α β : Type} {needs provides : α → Prop}

theorem FirstInNeed.mem {elements : List α} {user : α}
    (h : FirstInNeed needs provides elements user) : user ∈ elements := by
  obtain ⟨earlier, later, rfl, -⟩ := h
  simp

theorem FirstInNeed.needs_user {elements : List α} {user : α}
    (h : FirstInNeed needs provides elements user) : needs user := by
  obtain ⟨-, -, -, hneeds, -⟩ := h
  exact hneeds

theorem FirstInNeed.concat {elements : List α} {user : α}
    (h : FirstInNeed needs provides elements user) (next : α) :
    FirstInNeed needs provides (elements ++ [next]) user := by
  obtain ⟨earlier, later, rfl, hrest⟩ := h
  exact ⟨earlier, later ++ [next], by simp, hrest⟩

/-- The last element is the first in need if no other one needs or provides it. -/
theorem firstInNeed_concat_iff {elements : List α} {user next : α} :
    FirstInNeed needs provides (elements ++ [next]) user
      ↔ FirstInNeed needs provides elements user
        ∨ user = next ∧ needs next ∧ ∀ other ∈ elements, ¬needs other ∧ ¬provides other := by
  constructor
  · rintro ⟨earlier, later, hsplit, hneeds, hfirst⟩
    rcases List.eq_nil_or_concat later with rfl | ⟨later, last, rfl⟩
    · obtain ⟨rfl, hlast⟩ := List.append_inj' hsplit rfl
      cases hlast
      exact .inr ⟨rfl, hneeds, hfirst⟩
    · rw [List.concat_eq_append, ← List.cons_append, ← List.append_assoc] at hsplit
      obtain ⟨rfl, -⟩ := List.append_inj' hsplit rfl
      exact .inl ⟨earlier, later, rfl, hneeds, hfirst⟩
  · rintro (huse | ⟨rfl, hneeds, hfirst⟩)
    · exact huse.concat next
    · exact ⟨elements, [], rfl, hneeds, hfirst⟩

theorem firstInNeed_map_iff {f : β → α} {elements : List β} {user : α} :
    FirstInNeed needs provides (elements.map f) user
      ↔ ∃ element, user = f element
        ∧ FirstInNeed (fun other => needs (f other)) (fun other => provides (f other)) elements
          element := by
  constructor
  · rintro ⟨earlier, later, hsplit, hneeds, hfirst⟩
    obtain ⟨before, rest, rfl, rfl, hrest⟩ := List.map_eq_append_iff.1 hsplit
    obtain ⟨element, after, rfl, rfl, rfl⟩ := List.map_eq_cons_iff.1 hrest
    exact ⟨element, rfl, before, after, rfl, hneeds, List.forall_mem_map.1 hfirst⟩
  · rintro ⟨element, rfl, earlier, later, rfl, hneeds, hfirst⟩
    exact ⟨earlier.map f, later.map f, by simp, hneeds, List.forall_mem_map.2 hfirst⟩

end FirstInNeed

/-- A declaration is the first to need a container of a name, with none declared before. -/
def Introduces (found : List Found) (name : QualifiedName) : Found → Prop :=
  FirstInNeed (fun other => name <+: other.name.dropLast)
    (fun other => other.declaration.kind.isContainer = true ∧ other.name = name) found

variable {blocks}

/-- Nothing takes the members of a name as long as it is neither needed nor declared. -/
theorem takes?_reverse_eq_none {found : List Found} {name : QualifiedName} :
    takes? blocks found.reverse name = none
      ↔ ∀ other ∈ found, ¬name <+: other.name.dropLast
        ∧ ¬(other.declaration.kind.isContainer = true ∧ other.name = name) := by
  unfold takes? declared? firstNeed?
  rw [Option.or_eq_none_iff, Option.map_eq_none_iff, Option.map_eq_none_iff,
    List.find?_eq_none, List.find?_eq_none, List.reverse_reverse]
  simp only [List.mem_reverse, Bool.and_eq_true, beq_iff_eq, List.isPrefixOf_iff_prefix]
  constructor
  · rintro ⟨hdeclared, hneeded⟩ other hother
    exact ⟨hneeded other hother, hdeclared other hother⟩
  · intro h
    exact ⟨fun other hother => (h other hother).2, fun other hother => (h other hother).1⟩

theorem introduces_concat_iff {found : List Found} {name : QualifiedName} {user next : Found} :
    Introduces (found ++ [next]) name user
      ↔ Introduces found name user
        ∨ user = next ∧ name <+: next.name.dropLast ∧ takes? blocks found.reverse name = none := by
  rw [takes?_reverse_eq_none]
  exact firstInNeed_concat_iff

/-! ## All declarations -/

/-- The entries that are supplied for declarations: one for each name that is introduced, and with
the lines that go with its introduction. -/
structure Supplied (blocks : List Block) (found : List Found) (more : List Entry) : Prop where
  origin : ∀ entry ∈ more, ∃ name user, name ≠ [] ∧ Introduces found name user
    ∧ entry = suppliedEntry blocks user.line name
  nodup : (more.map Entry.childPath).Nodup
  there : ∀ name user, name ≠ [] → Introduces found name user →
    suppliedEntry blocks user.line name ∈ more

theorem ancestryOf_injective : Function.Injective ancestryOf :=
  fun _ _ h => congrArg Ancestry.types h

/-- **One more declaration.** What is supplied for it are the names that it introduces. -/
theorem Supplied.concat {found : List Found} {more : List Entry} (h : Supplied blocks found more)
    (next : Found) {names : List QualifiedName} (hnodup : names.Nodup)
    (hnames : ∀ name, name ∈ names
      ↔ name ≠ [] ∧ name <+: next.name.dropLast ∧ takes? blocks found.reverse name = none) :
    Supplied blocks (found ++ [next]) (names.map (suppliedEntry blocks next.line) ++ more) := by
  have hpaths : (names.map (suppliedEntry blocks next.line)).map Entry.childPath
      = names.map ancestryOf := by
    rw [List.map_map]
    exact List.map_congr_left fun name hname =>
      childPath_suppliedEntry next.line ((hnames name).1 hname).1
  refine ⟨?_, ?_, ?_⟩
  · refine List.forall_mem_append.2 ⟨List.forall_mem_map.2 fun name hname => ?_, ?_⟩
    · obtain ⟨hne, hintroduced⟩ := (hnames name).1 hname
      exact ⟨name, next, hne, introduces_concat_iff.2 (.inr ⟨rfl, hintroduced⟩), rfl⟩
    · intro entry hentry
      obtain ⟨name, user, hne, hintroduced, hentry⟩ := h.origin entry hentry
      exact ⟨name, user, hne, hintroduced.concat next, hentry⟩
  · rw [List.map_append, hpaths]
    refine (hnodup.map ancestryOf_injective).append h.nodup ?_
    -- A name that was introduced before has a container by now.
    intro path hnew hold
    obtain ⟨name, hname, rfl⟩ := List.mem_map.1 hnew
    obtain ⟨entry, hentry, hpath⟩ := List.mem_map.1 hold
    obtain ⟨name', user, hne, hintroduced, rfl⟩ := h.origin entry hentry
    rw [childPath_suppliedEntry user.line hne] at hpath
    obtain rfl := ancestryOf_injective hpath
    have hnone := takes?_reverse_eq_none.1 ((hnames name').1 hname).2.2 user hintroduced.mem
    exact hnone.1 hintroduced.needs_user
  · intro name user hne hintroduced
    rcases introduces_concat_iff.1 hintroduced with hbefore | ⟨rfl, hnew⟩
    · exact List.mem_append_right _ (h.there name user hne hbefore)
    · exact List.mem_append_left _ (List.mem_map_of_mem ((hnames name).2 ⟨hne, hnew⟩))

variable (blocks)

/-- **All declarations.** Their entries are in the forest, and besides only what is supplied for
the names that they introduce. -/
theorem exists_supplied (found : List Found) :
    ∃ more, (structured blocks found).entries ~ found.map (Found.entry blocks) ++ more
      ∧ Supplied blocks found more := by
  suffices ∃ more, (found.foldl (Parts.add blocks) {}).entries
      ~ found.map (Found.entry blocks) ++ more ∧ Supplied blocks found more by
    obtain ⟨more, hmore, hsupplied⟩ := this
    exact ⟨more, (entries_structured_perm blocks found).trans hmore, hsupplied⟩
  induction found using List.reverseRecOn with
  | nil =>
    refine ⟨[], .refl _, List.forall_mem_nil _, List.nodup_nil, ?_⟩
    rintro name user - ⟨earlier, later, hsplit, -⟩
    simp at hsplit
  | append_singleton found next ih =>
    obtain ⟨more, hmore, hsupplied⟩ := ih
    have htraced := Parts.traced_foldl blocks found
    rw [List.foldl_append, List.foldl_cons, List.foldl_nil]
    generalize found.foldl (Parts.add blocks) {} = parts at hmore htraced ⊢
    obtain ⟨names, hheld, hnodup, hnames⟩ :=
      exists_names_supplied blocks next.line htraced.closedOutwards next.name.dropLast.reverse
    rw [List.reverse_reverse] at hnames
    refine ⟨names.map (suppliedEntry blocks next.line) ++ more, ?_, hsupplied.concat next hnodup ?_⟩
    · calc
        _ ~ next.entry blocks
            :: (names.map (suppliedEntry blocks next.line) ++ parts.entries) :=
          parts.entries_add_of_supply blocks next hheld
        _ ~ next.entry blocks :: (names.map (suppliedEntry blocks next.line)
            ++ (found.map (Found.entry blocks) ++ more)) := (hmore.append_left _).cons _
        _ ~ next.entry blocks :: (found.map (Found.entry blocks)
            ++ (names.map (suppliedEntry blocks next.line) ++ more)) :=
          (List.perm_append_comm_assoc _ _ _).cons _
        _ ~ _ := by
          rw [List.map_append, List.append_assoc]
          exact List.perm_middle.symm
    · intro name
      rw [hnames]
      refine and_congr_right fun hne => and_congr_right fun _ => ?_
      rw [htraced.holders name hne]

theorem mem_heldBy_of_holder? {containers : List Container} {name : QualifiedName} {entry : Entry}
    (h : holder? containers name = some entry) : entry ∈ heldBy containers := by
  obtain ⟨container, hfind, rfl⟩ := Option.map_eq_some_iff.1 h
  have hmem := List.mem_map_of_mem (f := Container.member) (List.mem_of_find?_eq_some hfind)
  exact Forest.mem_entries_of_mem hmem container.member.entry_mem_entries

/-- **A container of each name around a declaration** is in the forest. -/
theorem exists_container_of_prefix {found : List Found}
    (hnamed : ∀ declared ∈ found, declared.name ≠ []) {user : Found} (huser : user ∈ found)
    {name : QualifiedName} (hne : name ≠ []) (hneeds : name <+: user.name.dropLast) :
    ∃ entry ∈ (structured blocks found).entries,
      entry.kind.isContainer = true ∧ entry.childPath = ancestryOf name := by
  have htaken : takes? blocks found.reverse name ≠ none := by
    intro hnone
    exact (takes?_reverse_eq_none.1 hnone user huser).1 hneeds
  obtain ⟨entry, hentry⟩ := Option.ne_none_iff_exists'.1 htaken
  have hheld := (Parts.traced_foldl blocks found).holders name hne
  rw [hentry] at hheld
  refine ⟨entry, ?_, ?_, ?_⟩
  · rw [(entries_structured_perm blocks found).mem_iff]
    exact List.mem_append_left _ (mem_heldBy_of_holder? hheld)
  · unfold takes? at hentry
    rcases Option.or_eq_some_iff.1 hentry with hdeclared | ⟨-, hsupplied⟩
    · obtain ⟨declared, hfind, rfl⟩ := Option.map_eq_some_iff.1 hdeclared
      exact (of_declared?_eq_some hfind).1
    · obtain ⟨first, -, rfl⟩ := Option.map_eq_some_iff.1 hsupplied
      rfl
  · have hnamed' : ∀ declared ∈ found.reverse, declared.name ≠ [] :=
      fun declared hmem => hnamed declared (List.mem_reverse.1 hmem)
    exact childPath_of_takes? hnamed' hne hentry

/-! ## Dotted names -/

/-- A declaration under its qualified name, the segments still in one text. -/
structure Dotted where
  name : String
  declaration : Declaration
  line : Nat
  column : Nat

/-- The declaration with its name taken apart at each full stop. -/
def Dotted.found (dotted : Dotted) : Found where
  name := segmentsOf dotted.name
  declaration := dotted.declaration
  line := dotted.line
  column := dotted.column

/-- A name qualifies another one if that goes on with a full stop behind it. -/
def Qualifies (outer name : String) : Prop := ∃ rest, name = outer ++ "." ++ rest

/-- A declaration is the first one that a name qualifies, with no container of the name declared
before. -/
def FirstToNeed (written : List Dotted) (outer : String) : Dotted → Prop :=
  FirstInNeed (fun other => Qualifies outer other.name)
    (fun other => other.declaration.kind.isContainer = true ∧ other.name = outer) written

theorem segmentsOf_injective : Function.Injective segmentsOf := by
  intro first second h
  rw [← joinTexts_segmentsOf first, h, joinTexts_segmentsOf]

theorem qualifies_iff {outer name : String} :
    Qualifies outer name ↔ segmentsOf outer <+: (segmentsOf name).dropLast :=
  prefix_dropLast_segmentsOf_iff.symm

/-- Some segments that a name begins with are themselves those of a name. -/
theorem exists_segmentsOf_eq {outer : QualifiedName} (hne : outer ≠ []) {name : String}
    (h : outer <+: (segmentsOf name).dropLast) : ∃ qualifier, outer = segmentsOf qualifier := by
  have hdotless : Dotless outer := fun segment hsegment =>
    dotless_segmentsOf name segment (List.dropLast_subset _ (h.subset hsegment))
  exact ⟨joinTexts "." outer, (segmentsOf_joinTexts hne hdotless).symm⟩

theorem introduces_found_iff {written : List Dotted} {outer : String} {user : Found} :
    Introduces (written.map Dotted.found) (segmentsOf outer) user
      ↔ ∃ dotted, user = dotted.found ∧ FirstToNeed written outer dotted := by
  unfold Introduces FirstToNeed
  rw [firstInNeed_map_iff]
  simp only [Dotted.found, qualifies_iff, segmentsOf_injective.eq_iff]

/-! ## The forest -/

/-- The entry of a declaration. Its ancestry and its name are the segments of the dotted name. -/
structure Dotted.Placed (blocks : List Block) (dotted : Dotted) (entry : Entry) : Prop where
  kind : entry.kind = dotted.declaration.kind
  signature : entry.signature = dotted.declaration.signature
  startLine : entry.startLine = dotted.line
  endLine : entry.endLine = some (lastLineOf blocks dotted.line)
  column : entry.column = dotted.column
  namespaces : entry.parent.namespaces = []
  segments : entry.parent.types ++ [entry.name] = segmentsOf dotted.name

/-- The entry that is supplied for a name on behalf of its first user. It has the lines of the
name, or else that of the user. -/
structure SuppliedAs (blocks : List Block) (outer : String) (user : Dotted) (entry : Entry) :
    Prop where
  kind : entry.kind = .genericType
  path : entry.childPath = ancestryOf (segmentsOf outer)
  lines : (entry.startLine, entry.endLine)
    = Prod.map id some ((spanOf? blocks (segmentsOf outer)).getD (user.line, user.line))

theorem Dotted.placed (dotted : Dotted) :
    dotted.Placed blocks (dotted.found.entry blocks) := by
  refine ⟨rfl, rfl, rfl, rfl, rfl, rfl, ?_⟩
  exact congrArg Ancestry.types (Found.childPath_entry blocks (segmentsOf_ne_nil dotted.name))

theorem suppliedAs_suppliedEntry (outer : String) (user : Dotted) :
    SuppliedAs blocks outer user (suppliedEntry blocks user.line (segmentsOf outer)) :=
  ⟨rfl, childPath_suppliedEntry user.line (segmentsOf_ne_nil outer),
    lines_suppliedEntry user.line (segmentsOf_ne_nil outer)⟩

/-- **The forest of dotted names.** Its entries are those of the declarations, one for each, and
those that are supplied. A declaration stands under the segments of its name, and there is a
container of every name that qualifies it. A container is supplied for a name exactly if a
declaration is the first to need it with none declared before, and never twice. -/
theorem dotted_names_make_forest (written : List Dotted) :
    ∃ declared supplied : List Entry,
      (structured blocks (written.map Dotted.found)).entries ~ declared ++ supplied
      ∧ List.Forall₂ (Dotted.Placed blocks) written declared
      ∧ (∀ user ∈ written, ∀ outer, Qualifies outer user.name →
        ∃ entry ∈ declared ++ supplied,
          entry.kind.isContainer = true ∧ entry.childPath = ancestryOf (segmentsOf outer))
      ∧ (∀ entry ∈ supplied, ∃ outer user,
        FirstToNeed written outer user ∧ SuppliedAs blocks outer user entry)
      ∧ (supplied.map Entry.childPath).Nodup
      ∧ ∀ outer user, FirstToNeed written outer user →
        ∃ entry ∈ supplied, SuppliedAs blocks outer user entry := by
  obtain ⟨supplied, hentries, hsupplied⟩ :=
    exists_supplied blocks (written.map Dotted.found)
  have hnamed : ∀ declared ∈ written.map Dotted.found, declared.name ≠ [] :=
    List.forall_mem_map.2 fun dotted _ => segmentsOf_ne_nil dotted.name
  refine ⟨_, supplied, hentries, ?_, ?_, ?_, hsupplied.nodup, ?_⟩
  · rw [List.map_map]
    exact List.forall₂_map_right_iff.2 (List.forall₂_same.2 fun dotted _ => dotted.placed blocks)
  · intro user huser outer hqualifies
    obtain ⟨entry, hentry, hcontainer⟩ := exists_container_of_prefix blocks hnamed
      (List.mem_map_of_mem huser) (segmentsOf_ne_nil outer) (qualifies_iff.1 hqualifies)
    exact ⟨entry, hentries.mem_iff.1 hentry, hcontainer⟩
  · intro entry hentry
    obtain ⟨name, user, hne, hintroduced, rfl⟩ := hsupplied.origin entry hentry
    obtain ⟨outer, rfl⟩ : ∃ outer, name = segmentsOf outer := by
      obtain ⟨dotted, -, rfl⟩ := List.mem_map.1 hintroduced.mem
      exact exists_segmentsOf_eq hne hintroduced.needs_user
    obtain ⟨dotted, rfl, hfirst⟩ := introduces_found_iff.1 hintroduced
    exact ⟨outer, dotted, hfirst, suppliedAs_suppliedEntry blocks outer dotted⟩
  · intro outer user hfirst
    have hintroduced := introduces_found_iff.2 ⟨user, rfl, hfirst⟩
    exact ⟨_, hsupplied.there _ _ (segmentsOf_ne_nil outer) hintroduced,
      suppliedAs_suppliedEntry blocks outer user⟩

/-- Two containers are supplied for one name, the second under the first. -/
example :
    let run : Dotted :=
      { name := "a.b.run", declaration := { kind := .method, name := "run" }, line := 0, column := 0 }
    (structured [] [run.found]).entries.map (fun entry => (entry.name, entry.parent.render))
      = [("a", ""), ("b", "a"), ("run", "a.b")] := by
  cbv

end SourceOutline.LineScan
