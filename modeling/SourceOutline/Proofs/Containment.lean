/-
Containers and the lines of their members.

A container has its lines from the block of its line, and a member goes by its qualified name. The
two need not agree: a name can be declared once more while a block of that name is still open, as
a class in a function does not have the name of the class around the function in front. From then
on the later container takes the members (`takes?`), also those that are declared further down in
the block of the earlier one.

Which container takes a member is told from the declarations before it: the latest one that
declares a container of this name, or else what was supplied when the name was first needed. This
is kept by each step of the construction (`Parts.Traced.add`). The lines then decide whether the
member is in the container (`child_within_container_iff`).
-/
import Mathlib
import SourceOutline.Proofs.Blocks
import SourceOutline.Proofs.LineMembers

set_option autoImplicit false

namespace SourceOutline

/-- A line is one of those from the first line of an entry to its last. -/
def Entry.Spans (entry : Entry) (line : Nat) : Prop :=
  entry.startLine ≤ line ∧ ∃ last, entry.endLine = some last ∧ line ≤ last

namespace LineScan

/-! ## The newest container of a name -/

/-- The entry of the newest container of a name. -/
def holder? (containers : List Container) (name : QualifiedName) : Option Entry :=
  (containers.find? fun container => container.name == name).map Container.entry

theorem holder?_cons (container : Container) (containers : List Container) (name : QualifiedName) :
    holder? (container :: containers) name
      = if container.name = name then some container.entry else holder? containers name := by
  unfold holder?
  rw [List.find?_cons]
  by_cases hname : container.name = name
  · rw [if_pos hname, beq_iff_eq.2 hname]
    rfl
  · rw [if_neg hname, beq_eq_false_iff_ne.2 hname]

theorem hasContainer_eq_isSome (containers : List Container) (name : QualifiedName) :
    hasContainer containers name = (holder? containers name).isSome := by
  rw [holder?, Option.isSome_map, List.isSome_find?, hasContainer]

/-- A member that is added changes no entry. -/
theorem holder?_addMember (name : QualifiedName) (member : Member) (containers : List Container)
    (other : QualifiedName) :
    holder? (addMember name member containers) other = holder? containers other := by
  induction containers with
  | nil => rfl
  | cons first rest ih =>
    rw [addMember]
    split
    · rw [holder?_cons, holder?_cons]
    · rw [holder?_cons, ih, holder?_cons]

/-- A member is added to the newest container of its name. -/
theorem mem_addMember_holder {name : QualifiedName} {member : Member} {containers : List Container}
    {container : Container} (h : container ∈ addMember name member containers) :
    container ∈ containers
      ∨ ∃ before ∈ containers, before.name = name ∧ holder? containers name = some before.entry
        ∧ container = { before with members := member :: before.members } := by
  induction containers with
  | nil => cases h
  | cons first rest ih =>
    rw [addMember] at h
    rw [holder?_cons]
    split at h
    · rename_i hname
      have hfirst := eq_of_beq hname
      rw [if_pos hfirst]
      rcases List.mem_cons.1 h with rfl | h
      · exact .inr ⟨first, List.mem_cons_self, hfirst, rfl, rfl⟩
      · exact .inl (List.mem_cons_of_mem _ h)
    · rename_i hname
      rw [if_neg (by simpa using hname)]
      rcases List.mem_cons.1 h with rfl | h
      · exact .inl List.mem_cons_self
      · refine (ih h).imp (List.mem_cons_of_mem _) ?_
        rintro ⟨before, hbefore, hrest⟩
        exact ⟨before, List.mem_cons_of_mem _ hbefore, hrest⟩

variable (blocks : List Block)

/-- The entry of the container that is supplied for a name. -/
def suppliedEntry (line : Nat) (name : QualifiedName) : Entry :=
  (supplied blocks line (name.getLast?.getD "") name.dropLast).entry

/-- With a container there are those of the names around it. -/
def ClosedOutwards (containers : List Container) : Prop :=
  ∀ name outer : QualifiedName, (holder? containers name).isSome → outer ≠ [] → outer <+: name →
    (holder? containers outer).isSome

variable {blocks}

/-- What is missing around a name is supplied, and nothing else changes. -/
theorem holder?_supply (line : Nat) {containers : List Container} (h : ClosedOutwards containers)
    (segments : List String) {name : QualifiedName} (hne : name ≠ []) :
    holder? (supply blocks line containers segments) name
      = (holder? containers name).or
          (if name.reverse <:+ segments then some (suppliedEntry blocks line name) else none) := by
  induction segments with
  | nil =>
    rw [if_neg (by simpa using hne), Option.or_none]
    rfl
  | cons segment outer ih =>
    rw [supply]
    split
    · -- The name is there, and so is everything around it.
      rename_i hthere
      rw [hasContainer_eq_isSome] at hthere
      split
      · rename_i hsuffix
        rw [← List.reverse_prefix, List.reverse_reverse] at hsuffix
        obtain ⟨entry, hentry⟩ := Option.isSome_iff_exists.1 (h _ name hthere hne hsuffix)
        rw [hentry, Option.some_or]
      · rw [Option.or_none]
    · rename_i hmissing
      rw [hasContainer_eq_isSome, Bool.not_eq_true, Option.isSome_eq_false_iff] at hmissing
      have hsplit : (segment :: outer).reverse = outer.reverse ++ [segment] := List.reverse_cons
      have hsupplied : (supplied blocks line segment outer.reverse).name
          = outer.reverse ++ [segment] := rfl
      rw [holder?_cons, ih, hsupplied]
      by_cases hname : outer.reverse ++ [segment] = name
      · subst hname
        rw [hsplit] at hmissing
        rw [if_pos rfl, Option.isNone_iff_eq_none.1 hmissing, if_pos (by simp), Option.none_or,
          suppliedEntry, List.dropLast_concat, List.getLast?_concat]
        rfl
      · have hother : name.reverse ≠ segment :: outer := by
          intro heq
          apply hname
          rw [← List.reverse_cons, ← heq, List.reverse_reverse]
        have hsuffix : name.reverse <:+ segment :: outer ↔ name.reverse <:+ outer := by
          rw [List.suffix_cons_iff]
          exact or_iff_right hother
        rw [if_neg hname]
        simp only [hsuffix]

theorem mem_supply {line : Nat} {containers : List Container} {segments : List String}
    {container : Container} (h : container ∈ supply blocks line containers segments) :
    container ∈ containers ∨ container.members = [] := by
  induction segments with
  | nil => exact .inl h
  | cons segment outer ih =>
    rw [supply] at h
    split at h
    · exact .inl h
    · rcases List.mem_cons.1 h with rfl | h
      · exact .inr rfl
      · exact ih h

/-! ## Which container takes a member -/

variable (blocks)

/-- The latest declaration of a container of a name, among those found so far, the last one
first. -/
def declared? (past : List Found) (name : QualifiedName) : Option Found :=
  past.find? fun found => found.declaration.kind.isContainer && found.name == name

/-- The first declaration that needed a container of a name around it. -/
def firstNeed? (past : List Found) (name : QualifiedName) : Option Found :=
  past.reverse.find? fun found => name.isPrefixOf found.name.dropLast

/-- The entry of the container that takes the members of a name. -/
def takes? (past : List Found) (name : QualifiedName) : Option Entry :=
  ((declared? past name).map (Found.entry blocks)).or
    ((firstNeed? past name).map fun found => suppliedEntry blocks found.line name)

variable {blocks}

theorem of_declared?_eq_some {past : List Found} {name : QualifiedName} {found : Found}
    (h : declared? past name = some found) :
    found.declaration.kind.isContainer = true ∧ found.name = name := by
  have hfound := List.find?_some h
  rw [Bool.and_eq_true] at hfound
  exact ⟨hfound.1, eq_of_beq hfound.2⟩

theorem of_firstNeed?_eq_some {past : List Found} {name : QualifiedName} {found : Found}
    (h : firstNeed? past name = some found) : found ∈ past ∧ name <+: found.name.dropLast := by
  have hneeds : name.isPrefixOf found.name.dropLast = true := by simpa using List.find?_some h
  exact ⟨List.mem_reverse.1 (List.mem_of_find?_eq_some h), List.isPrefixOf_iff_prefix.1 hneeds⟩

theorem declared?_cons_of_leaf {found : Found} (hleaf : found.declaration.kind.isContainer = false)
    (past : List Found) (name : QualifiedName) :
    declared? (found :: past) name = declared? past name := by
  unfold declared?
  rw [List.find?_cons_of_neg]
  simp [hleaf]

theorem declared?_cons_of_container {found : Found}
    (hcontainer : found.declaration.kind.isContainer = true) (past : List Found)
    (name : QualifiedName) :
    declared? (found :: past) name
      = if found.name = name then some found else declared? past name := by
  unfold declared?
  by_cases hname : found.name = name
  · rw [if_pos hname, List.find?_cons_of_pos]
    simp [hcontainer, hname]
  · rw [if_neg hname, List.find?_cons_of_neg]
    simp [hname]

theorem firstNeed?_cons (found : Found) (past : List Found) (name : QualifiedName) :
    firstNeed? (found :: past) name
      = (firstNeed? past name).or
          (if name <+: found.name.dropLast then some found else none) := by
  unfold firstNeed?
  rw [List.reverse_cons, List.find?_append]
  congr 1
  by_cases hneed : name <+: found.name.dropLast
  · rw [if_pos hneed, List.find?_cons_of_pos]
    exact List.isPrefixOf_iff_prefix.2 hneed
  · rw [if_neg hneed, List.find?_cons_of_neg, List.find?_nil]
    rwa [List.isPrefixOf_iff_prefix]

theorem prefix_dropLast {α : Type} {outer name : List α} (h : outer <+: name) (hne : outer ≠ name) :
    outer <+: name.dropLast := by
  obtain ⟨rest, rfl⟩ := h
  have hrest : rest ≠ [] := by
    rintro rfl
    exact hne (List.append_nil outer).symm
  rw [List.dropLast_append_of_ne_nil hrest]
  exact List.prefix_append outer _

/-- What takes the members of a name comes with what takes those of the names around it. -/
theorem isSome_takes?_of_prefix {past : List Found} {name outer : QualifiedName}
    (h : (takes? blocks past name).isSome) (hbegins : outer <+: name) :
    (takes? blocks past outer).isSome := by
  have hneed : ∀ found ∈ past, outer <+: found.name.dropLast →
      (takes? blocks past outer).isSome := by
    intro found hfound hin
    have hfirst : (firstNeed? past outer).isSome := by
      unfold firstNeed?
      rw [List.find?_isSome]
      exact ⟨found, List.mem_reverse.2 hfound, List.isPrefixOf_iff_prefix.2 hin⟩
    unfold takes?
    rw [Option.isSome_or, Option.isSome_map, Option.isSome_map, hfirst, Bool.or_true]
  unfold takes? at h
  rw [Option.isSome_or, Option.isSome_map, Option.isSome_map, Bool.or_eq_true] at h
  -- What made up the longer name, or needed it, needed the shorter one too.
  by_cases heq : outer = name
  · subst heq
    unfold takes?
    rw [Option.isSome_or, Option.isSome_map, Option.isSome_map, Bool.or_eq_true]
    exact h
  · rcases h with hdeclared | hfirst
    · obtain ⟨found, hfind⟩ := Option.isSome_iff_exists.1 hdeclared
      apply hneed found (List.mem_of_find?_eq_some hfind)
      rw [(of_declared?_eq_some hfind).2]
      exact prefix_dropLast hbegins heq
    · obtain ⟨found, hfind⟩ := Option.isSome_iff_exists.1 hfirst
      obtain ⟨hfound, hin⟩ := of_firstNeed?_eq_some hfind
      exact hneed found hfound (hbegins.trans hin)

/-- A member of a container: a declaration with what had been found before it, and its container
as the one that takes the members of its qualifiers. -/
structure MemberOf (blocks : List Block) (past : List Found) (name : QualifiedName)
    (entry : Entry) (member : Member) (found : Found) (earlier : List Found) : Prop where
  split : ∃ later, past = later ++ found :: earlier
  leaf : found.declaration.kind.isContainer = false
  qualified : name ≠ []
  qualifiers : found.name.dropLast = name
  member : member = .leaf (found.entry blocks)
  taken : takes? blocks (found :: earlier) name = some entry

/-- The parts of a forest under construction, told from the declarations so far. -/
structure Parts.Traced (blocks : List Block) (past : List Found) (parts : Parts) : Prop where
  holders : ∀ name, name ≠ [] → holder? parts.containers name = takes? blocks past name
  members : ∀ container ∈ parts.containers, ∀ member ∈ container.members,
    ∃ found earlier, MemberOf blocks past container.name container.entry member found earlier
  loose : ∀ member ∈ parts.loose, member.children = []

theorem MemberOf.cons {past : List Found} {name : QualifiedName} {entry : Entry} {member : Member}
    {found : Found} {earlier : List Found}
    (h : MemberOf blocks past name entry member found earlier) (next : Found) :
    MemberOf blocks (next :: past) name entry member found earlier := by
  obtain ⟨later, hsplit⟩ := h.split
  exact { h with split := ⟨next :: later, by rw [hsplit, List.cons_append]⟩ }

theorem Parts.Traced.closedOutwards {past : List Found} {parts : Parts}
    (h : parts.Traced blocks past) : ClosedOutwards parts.containers := by
  intro name outer hname hne hbegins
  have hname' : name ≠ [] := by
    rintro rfl
    exact hne (List.prefix_nil.1 hbegins)
  rw [h.holders name hname'] at hname
  rw [h.holders outer hne]
  exact isSome_takes?_of_prefix hname hbegins

/-- What a declaration needs is there once it is supplied. -/
theorem Parts.Traced.holder?_supply {past : List Found} {parts : Parts}
    (h : parts.Traced blocks past) (found : Found) {name : QualifiedName} (hne : name ≠ []) :
    holder? (supply blocks found.line parts.containers found.name.dropLast.reverse) name
      = ((declared? past name).map (Found.entry blocks)).or
          ((firstNeed? (found :: past) name).map fun found =>
            suppliedEntry blocks found.line name) := by
  rw [LineScan.holder?_supply found.line h.closedOutwards _ hne, h.holders name hne, takes?,
    firstNeed?_cons, Option.map_or, Option.or_assoc]
  simp only [List.reverse_suffix]
  split <;> rfl

/-- What is supplied has no members, and those of the other containers stay. -/
theorem Parts.Traced.members_supply {past : List Found} {parts : Parts}
    (h : parts.Traced blocks past) (found : Found) :
    ∀ container ∈ supply blocks found.line parts.containers found.name.dropLast.reverse,
      ∀ member ∈ container.members, ∃ before earlier,
        MemberOf blocks (found :: past) container.name container.entry member before earlier := by
  intro container hcontainer member hmember
  rcases mem_supply hcontainer with hthere | hnone
  · obtain ⟨before, earlier, hbefore⟩ := h.members container hthere member hmember
    exact ⟨before, earlier, hbefore.cons found⟩
  · rw [hnone] at hmember
    cases hmember

/-- **One declaration.** A container comes in front of those of its name. A member goes to the
one that takes the members of its qualifiers, or to the top level if it has none. -/
theorem Parts.Traced.add {past : List Found} {parts : Parts} (h : parts.Traced blocks past)
    (found : Found) : (parts.add blocks found).Traced blocks (found :: past) := by
  rw [Parts.add]
  split
  · rename_i hcontainer
    refine ⟨fun name hne => ?_, ?_, h.loose⟩
    · rw [holder?_cons, h.holder?_supply found hne, takes?, declared?_cons_of_container hcontainer]
      dsimp only
      split
      · rfl
      · rfl
    · exact List.forall_mem_cons.2 ⟨List.forall_mem_nil _, h.members_supply found⟩
  · rename_i hnot
    have hleaf : found.declaration.kind.isContainer = false := Bool.eq_false_iff.2 hnot
    have htakes : ∀ name, name ≠ [] →
        holder? (supply blocks found.line parts.containers found.name.dropLast.reverse) name
          = takes? blocks (found :: past) name := by
      intro name hne
      rw [h.holder?_supply found hne, takes?, declared?_cons_of_leaf hleaf]
    split
    · exact ⟨htakes, h.members_supply found, List.forall_mem_cons.2 ⟨rfl, h.loose⟩⟩
    · rename_i hqualifiers
      have hne : found.name.dropLast ≠ [] := by simpa using hqualifiers
      refine ⟨fun name hname => ?_, ?_, h.loose⟩
      · rw [holder?_addMember]
        exact htakes name hname
      · intro container hcontainer member hmember
        rcases mem_addMember_holder hcontainer with hthere | ⟨before, hbefore, hname, hholder, rfl⟩
        · exact h.members_supply found container hthere member hmember
        · rcases List.mem_cons.1 hmember with rfl | hmember
          · refine ⟨found, past, ⟨[], rfl⟩, hleaf, hname ▸ hne, hname.symm, rfl, ?_⟩
            dsimp only
            rw [hname, ← htakes _ hne]
            exact hholder
          · exact h.members_supply found before hbefore member hmember

/-- **All declarations.** -/
theorem Parts.Traced.addAll {past : List Found} {parts : Parts} (h : parts.Traced blocks past)
    (found : List Found) :
    (found.foldl (Parts.add blocks) parts).Traced blocks (found.reverse ++ past) := by
  induction found generalizing past parts with
  | nil => exact h
  | cons first rest ih =>
    rw [List.reverse_cons, List.append_assoc]
    exact ih (h.add first)

variable (blocks) in
/-- What has been put together, told from all declarations. -/
theorem Parts.traced_foldl (found : List Found) :
    (found.foldl (Parts.add blocks) {}).Traced blocks found.reverse := by
  have hstart : Parts.Traced blocks [] {} := by
    refine ⟨fun _ _ => rfl, ?_, ?_⟩
    · exact List.forall_mem_nil _
    · exact List.forall_mem_nil _
  have hall := hstart.addAll found
  rwa [List.append_nil] at hall

theorem childPath_suppliedEntry (line : Nat) {name : QualifiedName} (hne : name ≠ []) :
    (suppliedEntry blocks line name).childPath = ancestryOf name := by
  have hpath : (suppliedEntry blocks line name).childPath
      = ancestryOf (name.dropLast ++ [name.getLast?.getD ""]) := childPath_eq_ancestryOf rfl rfl
  rw [hpath, dropLast_append_getLast? hne]

/-- It has the lines that go with its name, if there are any, and else the one it is supplied on. -/
theorem lines_suppliedEntry (line : Nat) {name : QualifiedName} (hne : name ≠ []) :
    ((suppliedEntry blocks line name).startLine, (suppliedEntry blocks line name).endLine)
      = Prod.map id some ((spanOf? blocks name).getD (line, line)) := by
  unfold suppliedEntry supplied
  rw [dropLast_append_getLast? hne]
  rfl

/-- A container takes its place from the declaration, or from where it is supplied. -/
theorem childPath_of_takes? {past : List Found} (hnamed : ∀ found ∈ past, found.name ≠ [])
    {name : QualifiedName} (hne : name ≠ []) {entry : Entry}
    (h : takes? blocks past name = some entry) : entry.childPath = ancestryOf name := by
  unfold takes? at h
  rcases Option.or_eq_some_iff.1 h with hdeclared | ⟨-, hneed⟩
  · obtain ⟨found, hfind, rfl⟩ := Option.map_eq_some_iff.1 hdeclared
    rw [← (of_declared?_eq_some hfind).2]
    exact Found.childPath_entry blocks (hnamed found (List.mem_of_find?_eq_some hfind))
  · obtain ⟨found, -, rfl⟩ := Option.map_eq_some_iff.1 hneed
    exact childPath_suppliedEntry found.line hne

/-- **The members of the containers of a forest.** -/
theorem exists_memberOf_structured {found : List Found} {container child : Member}
    (hcontainer : container ∈ structured blocks found) (hchild : child ∈ container.children) :
    ∃ name declared earlier,
      MemberOf blocks found.reverse name container.entry child declared earlier := by
  have hall := Parts.traced_foldl blocks found
  unfold structured at hcontainer
  have hparts := (Forest.sortByLine_perm _).mem_iff.1 hcontainer
  rcases List.mem_append.1 hparts with hbuilt | hloose
  · obtain ⟨built, hmem, rfl⟩ := List.mem_map.1 hbuilt
    obtain ⟨declared, earlier, hmember⟩ :=
      hall.members built (List.mem_reverse.1 hmem) child (List.mem_reverse.1 hchild)
    exact ⟨built.name, declared, earlier, hmember⟩
  · rw [hall.loose container (List.mem_reverse.1 hloose)] at hchild
    cases hchild

/-! ## Containers and lines -/

variable {rows : List (Option Row)}

/-- A line declares a container of this qualified name. -/
def DeclaresContainer (rows : List (Option Row)) (line : Nat) (qualified : String) : Prop :=
  ∃ indent declaration, RowAt rows line ⟨indent, .declaration declaration⟩
    ∧ declaration.kind.isContainer = true ∧ QualifiedAs rows line declaration.name qualified

/-- A line declares something under a name, with that name in front of its own. -/
def DeclaresUnder (rows : List (Option Row)) (line : Nat) (qualified : String) : Prop :=
  ∃ indent declaration inner, RowAt rows line ⟨indent, .declaration declaration⟩
    ∧ QualifiedAs rows line declaration.name (qualified ++ "." ++ inner)

/-- A line lies in the block of the latest container of a name that is declared before it. -/
def InLatest (rows : List (Option Row)) (line : Nat) (qualified : String) : Prop :=
  ∃ first, DeclaresContainer rows first qualified ∧ Surrounds rows first line
    ∧ ∀ other, DeclaresContainer rows other qualified → other < line → other ≤ first

/-- No line declares a container of this name, and no earlier line declares something under it. -/
structure FirstUse (rows : List (Option Row)) (line : Nat) (qualified : String) : Prop where
  undeclared : ∀ other, ¬DeclaresContainer rows other qualified
  first : ∀ other < line, ¬DeclaresUnder rows other qualified

/-- Up to its last line a block holds all lines behind the first. -/
theorem EndsAt.le_iff {first last line : Nat} {row : Row} (h : EndsAt rows first last)
    {opening : Row} (hfirst : RowAt rows first opening) (hopens : opening.kind ≠ .skip)
    (hlt : first < line) (hrow : RowAt rows line row) :
    line ≤ last ↔ Surrounds rows first line := by
  obtain ⟨stop, ⟨hafter, opening', hfirst', hdeeper, hstop⟩, hlast⟩ := h
  cases hfirst.unique hfirst'
  constructor
  · intro hle
    have := hlast.lt
    exact ⟨hlt, Nat.lt_succ_of_lt hlt, opening, hfirst, hopens,
      fun between other hin hbefore => hdeeper between other hin (by omega)⟩
  · -- Behind the last line there is nothing up to the line that ends the block.
    rintro ⟨-, -, opening', hfirst', -, hinside⟩
    cases hfirst.unique hfirst'
    by_contra hbehind
    have hstopped : stop ≤ line := by
      by_contra hbefore
      exact hlast.blank line row (by omega) (by omega) hrow
    have := hrow.lt_length
    rcases hstop with rfl | ⟨next, hnext, hindent⟩
    · omega
    · have := hinside stop next hafter (by omega) hnext
      omega

section Lines

variable {found : List Found} {blocks : List Block} {stop : Nat}
  (hscan : ByIndentation rows found blocks)
  (hdotless : ∀ declared ∈ found, Dotless declared.name)

include hscan hdotless

/-- The segments under which something is found are those of its qualified name. -/
theorem qualifiedAs_iff {declared : Found} (hdeclared : declared ∈ found) {qualified : String} :
    QualifiedAs rows declared.line declared.declaration.name qualified
      ↔ declared.name = segmentsOf qualified := by
  have hnames := (hscan.foundOn declared hdeclared).names
  constructor
  · exact hnames.eq_segmentsOf (hdotless declared hdeclared)
  · intro hname
    have hqualified := hnames.qualified
    rw [hname, joinTexts_segmentsOf] at hqualified
    exact hqualified

theorem exists_found_named {line indent : Nat} {declaration : Declaration} {qualified : String}
    (hrow : RowAt rows line ⟨indent, .declaration declaration⟩)
    (hqualified : QualifiedAs rows line declaration.name qualified) :
    ∃ declared ∈ found, declared.line = line ∧ declared.declaration = declaration
      ∧ declared.name = segmentsOf qualified := by
  obtain ⟨declared, hdeclared, heq⟩ := hscan.exists_found hrow
  unfold Found.declared at heq
  cases heq
  exact ⟨declared, hdeclared, rfl, rfl, (qualifiedAs_iff hscan hdotless hdeclared).1 hqualified⟩

theorem declaresContainer_iff {line : Nat} {qualified : String} :
    DeclaresContainer rows line qualified
      ↔ ∃ declared ∈ found, declared.line = line
        ∧ declared.declaration.kind.isContainer = true ∧ declared.name = segmentsOf qualified := by
  constructor
  · rintro ⟨indent, declaration, hrow, hcontainer, hqualified⟩
    obtain ⟨declared, hdeclared, hline, rfl, hname⟩ :=
      exists_found_named hscan hdotless hrow hqualified
    exact ⟨declared, hdeclared, hline, hcontainer, hname⟩
  · rintro ⟨declared, hdeclared, rfl, hcontainer, hname⟩
    exact ⟨_, _, (hscan.foundOn declared hdeclared).there, hcontainer,
      (qualifiedAs_iff hscan hdotless hdeclared).2 hname⟩

theorem declaresUnder_iff {line : Nat} {qualified : String} :
    DeclaresUnder rows line qualified
      ↔ ∃ declared ∈ found, declared.line = line
        ∧ segmentsOf qualified <+: declared.name.dropLast := by
  constructor
  · rintro ⟨indent, declaration, inner, hrow, hqualified⟩
    obtain ⟨declared, hdeclared, hline, -, hname⟩ :=
      exists_found_named hscan hdotless hrow hqualified
    refine ⟨declared, hdeclared, hline, ?_⟩
    rw [hname]
    exact prefix_dropLast_segmentsOf_iff.2 ⟨inner, rfl⟩
  · rintro ⟨declared, hdeclared, rfl, hprefix⟩
    have hfound := hscan.foundOn declared hdeclared
    have hname := segmentsOf_joinTexts hfound.names.ne_nil (hdotless declared hdeclared)
    rw [← hname] at hprefix
    obtain ⟨inner, hinner⟩ := prefix_dropLast_segmentsOf_iff.1 hprefix
    refine ⟨_, _, inner, hfound.there, (qualifiedAs_iff hscan hdotless hdeclared).2 ?_⟩
    rw [← hinner, hname]

omit hdotless

/-- A declared container spans the lines that its line surrounds. -/
theorem spans_declared_iff {declared : Found} (hdeclared : declared ∈ found) {line : Nat}
    {row : Row} (hlt : declared.line < line) (hrow : RowAt rows line row) :
    (declared.entry blocks).Spans line ↔ Surrounds rows declared.line line := by
  have hthere := (hscan.foundOn declared hdeclared).there
  have hends : EndsAt rows declared.line (lastLineOf blocks declared.line) :=
    endsAt_lastLineOf hscan.ended (hscan.covered _ _ hthere (by simp))
  rw [← hends.le_iff hthere (by simp) hlt hrow]
  constructor
  · rintro ⟨-, last, hlast, hle⟩
    cases hlast
    exact hle
  · intro hle
    exact ⟨Nat.le_of_lt hlt, _, rfl, hle⟩

/-- The lines of a container that is supplied are those of a block of its name, or else the line
it was first needed on. -/
theorem spans_supplied_iff (horder : InOrder rows stop (blocks.map Block.opening))
    {line needed : Nat} {qualified : String}
    (hlater : ∀ first, Called rows first qualified → line < first) (hle : needed ≤ line) :
    (suppliedEntry blocks needed (segmentsOf qualified)).Spans line
      ↔ needed = line ∧ ∀ first, ¬Called rows first qualified := by
  have hlines := @lines_suppliedEntry blocks needed _ (segmentsOf_ne_nil qualified)
  unfold Entry.Spans
  cases hspan : spanOf? blocks (segmentsOf qualified) with
  | none =>
    have hnone := not_called_of_spanOf? hscan horder hspan
    rw [hspan] at hlines
    obtain ⟨hfirst, hlast⟩ := Prod.mk.inj hlines
    rw [hfirst, hlast]
    constructor
    · rintro ⟨-, last, hlast, hbefore⟩
      cases hlast
      exact ⟨Nat.le_antisymm hle hbefore, hnone⟩
    · rintro ⟨rfl, -⟩
      exact ⟨Nat.le_refl _, _, rfl, Nat.le_refl _⟩
  | some span =>
    -- The block begins behind the line, as the name had been declared otherwise.
    obtain ⟨first, last⟩ := span
    have hcalled := (firstCalled_of_spanOf? hscan horder hspan).1.called
    rw [hspan] at hlines
    obtain ⟨hfirst, -⟩ := Prod.mk.inj hlines
    constructor
    · rintro ⟨hstart, -⟩
      have hbehind := hlater first hcalled
      rw [hfirst] at hstart
      change first ≤ line at hstart
      omega
    · rintro ⟨-, hnone⟩
      exact absurd hcalled (hnone first)

section MemberOf

variable {name : QualifiedName} {entry : Entry} {member : Member} {declared : Found}
  {earlier : List Found} (h : MemberOf blocks found.reverse name entry member declared earlier)

include h

omit hscan in
theorem MemberOf.mem : declared ∈ found := by
  obtain ⟨later, hsplit⟩ := h.split
  rw [← List.mem_reverse, hsplit]
  exact List.mem_append_right _ List.mem_cons_self

/-- What was found before a member comes line by line, the last line first. -/
theorem MemberOf.descending :
    earlier.Pairwise (fun newer older => older.line < newer.line)
      ∧ ∀ other ∈ earlier, other.line < declared.line := by
  obtain ⟨later, hsplit⟩ := h.split
  have hall := List.pairwise_reverse.2 hscan.ascending
  rw [hsplit] at hall
  obtain ⟨hbefore, hearlier⟩ := List.pairwise_cons.1 (List.pairwise_append.1 hall).2.1
  exact ⟨hearlier, hbefore⟩

/-- What is found stands behind a member unless it was found before. -/
theorem MemberOf.lt_of_mem {other : Found} (hother : other ∈ found) (hne : other ≠ declared)
    (hnot : other ∉ earlier) : declared.line < other.line := by
  obtain ⟨later, hsplit⟩ := h.split
  have hall := List.pairwise_reverse.2 hscan.ascending
  rw [hsplit] at hall
  rw [← List.mem_reverse, hsplit] at hother
  rcases List.mem_append.1 hother with hlater | hrest
  · exact (List.pairwise_append.1 hall).2.2 other hlater declared List.mem_cons_self
  · rcases List.mem_cons.1 hrest with heq | hearlier
    · exact absurd heq hne
    · exact absurd hearlier hnot

/-- What was found before a member stands on the lines before it. -/
theorem MemberOf.mem_earlier_iff {other : Found} :
    other ∈ earlier ↔ other ∈ found ∧ other.line < declared.line := by
  constructor
  · intro hother
    obtain ⟨later, hsplit⟩ := h.split
    have hfound : other ∈ found.reverse := by
      rw [hsplit]
      exact List.mem_append_right _ (List.mem_cons_of_mem _ hother)
    exact ⟨List.mem_reverse.1 hfound, (h.descending hscan).2 other hother⟩
  · rintro ⟨hother, hlt⟩
    by_contra hnot
    have hne : other ≠ declared := by
      rintro rfl
      omega
    have := h.lt_of_mem hscan hother hne hnot
    omega

variable (hdotless : ∀ declared ∈ found, Dotless declared.name)

include hdotless

/-- The name under which a member is held is the one its container has as a parent. -/
theorem MemberOf.name_eq_segmentsOf : name = segmentsOf entry.childPath.render := by
  have hnamed : ∀ other ∈ declared :: earlier, other.name ≠ [] := by
    intro other hother
    have hfound : other ∈ found := by
      rcases List.mem_cons.1 hother with rfl | hother
      · exact h.mem
      · exact ((h.mem_earlier_iff hscan).1 hother).1
    exact (hscan.foundOn other hfound).names.ne_nil
  have hpath := childPath_of_takes? hnamed h.qualified h.taken
  have hsegments : Dotless name := by
    rw [← h.qualifiers]
    exact fun segment hsegment =>
      hdotless declared h.mem segment (List.mem_of_mem_dropLast hsegment)
  rw [hpath, render_ancestryOf, segmentsOf_joinTexts h.qualified hsegments]

variable {qualified : String} (hname : name = segmentsOf qualified)

include hname

/-- The latest declaration that is found is that of the latest line. -/
theorem MemberOf.latest {holder : Found} (hholder : declared? earlier name = some holder) :
    DeclaresContainer rows holder.line qualified
      ∧ ∀ other, DeclaresContainer rows other qualified → other < declared.line →
        other ≤ holder.line := by
  obtain ⟨hcontainer, hholderName⟩ := of_declared?_eq_some hholder
  obtain ⟨hfound, -⟩ := (h.mem_earlier_iff hscan).1 (List.mem_of_find?_eq_some hholder)
  refine ⟨(declaresContainer_iff hscan hdotless).2
    ⟨holder, hfound, rfl, hcontainer, hholderName.trans hname⟩, fun other hother hlt => ?_⟩
  obtain ⟨found', hfound', rfl, hcontainer', hname'⟩ :=
    (declaresContainer_iff hscan hdotless).1 hother
  have hin := (h.mem_earlier_iff hscan).2 ⟨hfound', hlt⟩
  have hdescending := (h.descending hscan).1
  obtain ⟨-, newer, older, hparts, hnewer⟩ := List.find?_eq_some_iff_append.1 hholder
  rw [hparts] at hin hdescending
  rcases List.mem_append.1 hin with hnew | hold
  · have hnot := hnewer found' hnew
    rw [hcontainer', hname', hname, beq_self_eq_true] at hnot
    cases hnot
  · rcases List.mem_cons.1 hold with rfl | hold
    · exact Nat.le_refl _
    · have hrest := (List.pairwise_append.1 hdescending).2.1
      exact Nat.le_of_lt ((List.pairwise_cons.1 hrest).1 found' hold)

/-- If none was found, the name is declared further down, if at all. -/
theorem MemberOf.undeclared (hnone : declared? earlier name = none) {other : Nat}
    (hother : DeclaresContainer rows other qualified) : declared.line < other := by
  obtain ⟨found', hfound', rfl, hcontainer', hname'⟩ :=
    (declaresContainer_iff hscan hdotless).1 hother
  apply h.lt_of_mem hscan hfound'
  · -- The member itself is no container.
    rintro rfl
    rw [h.leaf] at hcontainer'
    cases hcontainer'
  · intro hin
    have hnot := List.find?_eq_none.1 hnone found' hin
    rw [hcontainer', hname', hname, beq_self_eq_true] at hnot
    exact absurd rfl hnot

/-- A name was needed before if an earlier line declares something under it. -/
theorem MemberOf.needed_iff :
    (firstNeed? earlier name).isSome
      ↔ ∃ other < declared.line, DeclaresUnder rows other qualified := by
  constructor
  · intro hsome
    obtain ⟨first, hfirst⟩ := Option.isSome_iff_exists.1 hsome
    obtain ⟨hin, hneeds⟩ := of_firstNeed?_eq_some hfirst
    obtain ⟨hfound, hlt⟩ := (h.mem_earlier_iff hscan).1 hin
    rw [hname] at hneeds
    exact ⟨first.line, hlt, (declaresUnder_iff hscan hdotless).2 ⟨first, hfound, rfl, hneeds⟩⟩
  · rintro ⟨other, hlt, hother⟩
    obtain ⟨found', hfound', rfl, hneeds⟩ := (declaresUnder_iff hscan hdotless).1 hother
    unfold firstNeed?
    rw [List.find?_isSome]
    refine ⟨found', List.mem_reverse.2 ((h.mem_earlier_iff hscan).2 ⟨hfound', hlt⟩), ?_⟩
    rw [List.isPrefixOf_iff_prefix, hname]
    exact hneeds

/-- **The container of a member spans its line** if the member is in the block of the latest
container of that name, or if that container was supplied for it. -/
theorem MemberOf.spans_iff (horder : InOrder rows stop (blocks.map Block.opening))
    (hcalled : ∀ line, Called rows line qualified ↔ DeclaresContainer rows line qualified) :
    entry.Spans declared.line
      ↔ InLatest rows declared.line qualified ∨ FirstUse rows declared.line qualified := by
  have hthere := (hscan.foundOn declared h.mem).there
  have htaken := h.taken
  unfold takes? at htaken
  rw [declared?_cons_of_leaf h.leaf] at htaken
  cases hholder : declared? earlier name with
  | some holder =>
    -- The container is the latest one, so to be in the latest block is to be in its block.
    obtain ⟨hdeclares, hlatest⟩ := h.latest hscan hdotless hname hholder
    obtain ⟨hfound, hlt⟩ := (h.mem_earlier_iff hscan).1 (List.mem_of_find?_eq_some hholder)
    rw [hholder] at htaken
    cases htaken
    change (holder.entry blocks).Spans declared.line ↔ _
    rw [spans_declared_iff hscan hfound hlt hthere]
    constructor
    · exact fun hsurrounds => .inl ⟨holder.line, hdeclares, hsurrounds, hlatest⟩
    · rintro (⟨first, hfirst, hsurrounds, hmost⟩ | hfirstUse)
      · have hle := hlatest first hfirst hsurrounds.lt
        cases Nat.le_antisymm hle (hmost holder.line hdeclares hlt)
        exact hsurrounds
      · exact absurd hdeclares (hfirstUse.undeclared _)
  | none =>
    have hlater := fun first hfirst => h.undeclared hscan hdotless hname hholder
      ((hcalled first).1 hfirst)
    have hnotIn : ¬InLatest rows declared.line qualified := by
      rintro ⟨first, hfirst, hsurrounds, -⟩
      have := h.undeclared hscan hdotless hname hholder hfirst
      have := hsurrounds.lt
      omega
    have hneeded := h.needed_iff hscan hdotless hname
    rw [hholder, Option.map_none, Option.none_or, firstNeed?_cons] at htaken
    rw [or_iff_right hnotIn]
    cases hfirst : firstNeed? earlier name with
    | some first =>
      -- The container was supplied for an earlier line, and spans that line only.
      rw [hfirst] at htaken hneeded
      cases htaken
      obtain ⟨-, hlt⟩ := (h.mem_earlier_iff hscan).1 (of_firstNeed?_eq_some hfirst).1
      rw [hname, spans_supplied_iff hscan horder hlater (Nat.le_of_lt hlt)]
      constructor
      · rintro ⟨hline, -⟩
        omega
      · intro hfirstUse
        obtain ⟨other, hother, hunder⟩ := hneeded.1 rfl
        exact absurd hunder (hfirstUse.first other hother)
    | none =>
      rw [hfirst, Option.none_or, if_pos (h.qualifiers ▸ List.prefix_rfl)] at htaken
      rw [hfirst] at hneeded
      cases htaken
      rw [hname, spans_supplied_iff hscan horder hlater (Nat.le_refl _)]
      constructor
      · rintro ⟨-, hnone⟩
        refine ⟨fun other hother => hnone other ((hcalled other).2 hother), ?_⟩
        intro other hlt hunder
        have := hneeded.2 ⟨other, hlt, hunder⟩
        cases this
      · exact fun hfirstUse =>
          ⟨rfl, fun first hfirst => hfirstUse.undeclared first ((hcalled first).1 hfirst)⟩

end MemberOf

end Lines

/-! ## Members in a class -/

theorem exists_step_of_rowAt {σ : Type} {classifier : Classifier σ} {lines : List (List Char)}
    {memory : σ} {line : Nat} {row : Row} (h : RowAt (classifier.rows memory lines) line row) :
    ∃ before text, row.kind = (classifier.step before text).1 := by
  induction lines generalizing memory line with
  | nil => cases h
  | cons text rest ih =>
    rw [Classifier.rows] at h
    split at h
    · cases line with
      | zero => cases h
      | succ line => exact ih h
    · cases line with
      | zero =>
        cases h
        exact ⟨memory, text, rfl⟩
      | succ line => exact ih h

/-- Where only containers give names to blocks, these are the blocks that have names. -/
theorem called_iff_declaresContainer
    (hunscoped : ∀ line row name, RowAt rows line row → row.kind ≠ .scope name) {line : Nat}
    {qualified : String} : Called rows line qualified ↔ DeclaresContainer rows line qualified := by
  constructor
  · rintro ⟨⟨indent, kind⟩, name, hrow, hname, hqualified⟩
    cases kind with
    | declaration declaration =>
      simp only [LineKind.blockName?, Option.ite_none_right_eq_some, Option.some.injEq] at hname
      obtain ⟨hcontainer, rfl⟩ := hname
      exact ⟨indent, declaration, hrow, hcontainer, hqualified⟩
    | scope own => exact absurd rfl (hunscoped line _ own hrow)
    | plain => cases hname
    | skip => cases hname
  · rintro ⟨indent, declaration, hrow, hcontainer, hqualified⟩
    exact ⟨_, declaration.name, hrow, if_pos hcontainer, hqualified⟩

/-- What stands directly in the block of a container is in the latest container of that name if
this is not declared once more in between. -/
theorem inLatest_iff_of_parent {parent line : Nat} {qualified : String}
    (hparent : Parent rows parent line) (hdeclares : DeclaresContainer rows parent qualified) :
    InLatest rows line qualified
      ↔ ∀ between, parent < between → between < line →
        ¬DeclaresContainer rows between qualified := by
  constructor
  · rintro ⟨first, -, hsurrounds, hlatest⟩ between hafter hbefore hagain
    have := hlatest between hagain hbefore
    have := hparent.latest first hsurrounds
    omega
  · intro hnone
    refine ⟨parent, hdeclares, hparent.surrounds, fun other hother hlt => ?_⟩
    by_contra hafter
    exact hnone other (by omega) hlt hother

end LineScan

namespace Python

open LineScan

theorem classify_ne_scope (showSignatures : Bool) (pending : Pending) (line : List Char)
    (name : String) : (classify showSignatures pending line).1 ≠ .scope name := by
  unfold classify classLine defLine
  dsimp only
  split
  · simp
  · split
    · simp
    · split
      · split <;> simp
      · split
        · split
          · simp
          · split <;> simp
        · simp

/-- **A member lies within its container** exactly if it is in the block of the latest container
of that name, or if the container is supplied for it. What is declared directly in the block of a
class lies within its container unless a class of the same qualified name is declared in between. -/
theorem child_within_container_iff (showSignatures : Bool) (source : String)
    {container child : Member} (hcontainer : container ∈ members showSignatures source)
    (hchild : child ∈ container.children) :
    let rows := (classifier showSignatures).rows .none (Text.lines source)
    let name := container.entry.childPath.render
    (container.entry.Spans child.startLine
        ↔ InLatest rows child.startLine name ∨ FirstUse rows child.startLine name)
      ∧ ∀ parent, Parent rows parent child.startLine → DeclaresContainer rows parent name →
        (container.entry.Spans child.startLine
          ↔ ∀ between, parent < between → between < child.startLine →
            ¬DeclaresContainer rows between name) := by
  intro rows name
  have hscan : ByIndentation rows _ _ := byIndentation_scan (classifier showSignatures) source
  obtain ⟨horder, hdotless⟩ := inOrder_scan (classifier showSignatures) source
  unfold members forest at hcontainer
  generalize scan (classifier showSignatures) source = scanned at hscan horder hdotless hcontainer
  obtain ⟨found, blocks⟩ := scanned
  obtain ⟨segments, declared, earlier, hmember⟩ := exists_memberOf_structured hcontainer hchild
  have hname : segments = segmentsOf name := hmember.name_eq_segmentsOf hscan hdotless
  have hunscoped : ∀ line row own, RowAt rows line row → row.kind ≠ .scope own := by
    intro line row own hrow
    obtain ⟨pending, text, hkind⟩ := exists_step_of_rowAt hrow
    rw [hkind]
    exact classify_ne_scope showSignatures pending text own
  have hspans := hmember.spans_iff hscan hdotless hname horder
    fun line => called_iff_declaresContainer hunscoped
  have hline : child.startLine = declared.line := by
    rw [hmember.member]
    rfl
  rw [hline]
  refine ⟨hspans, fun parent hparent hdeclares => ?_⟩
  rw [hspans, ← inLatest_iff_of_parent hparent hdeclares]
  exact or_iff_left fun hfirst => hfirst.undeclared parent hdeclares

/-- A method directly in the block of a class whose qualified name is not declared again. The
method lies within the class, and so it is in the block of the latest container of that name. -/
theorem child_within_container_iff_of_method :
    let source := "class A:\n  def f():\n    x\n"
    let rows := (classifier true).rows .none (Text.lines source)
    let child : Member := .leaf
      { kind := .method, name := "f", signature := some ⟨"", true⟩, startLine := 1,
        endLine := some 2, column := 2, parent := ancestryOf ["A"] }
    let container : Member := .node
      { kind := .classType, name := "A", startLine := 0, endLine := some 2 } [child]
    members true source = [container]
    ∧ container.entry.childPath.render = "A"
    ∧ Parent rows 0 child.startLine
    ∧ DeclaresContainer rows 0 "A"
    ∧ container.entry.Spans child.startLine
    ∧ (InLatest rows child.startLine "A" ∨ FirstUse rows child.startLine "A") := by
  intro source rows child container
  have hmembers : members true source = [container] := by cbv
  have hclass : rows[0]? = some (some ⟨0, .declaration { kind := .classType, name := "A" }⟩) := by
    decide +kernel
  have hmethod : rows[child.startLine]? = some (some ⟨2, .declaration
      { kind := .method, name := "f", signature := some ⟨"", true⟩ }⟩) := by
    decide +kernel
  have hline : child.startLine = 1 := rfl
  have hdeeper : Deeper rows 0 0 (child.startLine + 1) := by
    intro between row hafter hbefore hrow
    have hbetween : between = child.startLine := by omega
    rw [hbetween] at hrow
    rw [hrow.unique hmethod]
    decide
  have hparent : Parent rows 0 child.startLine :=
    ⟨⟨by omega, by omega, _, hclass, LineKind.noConfusion, hdeeper⟩,
      fun other hother => Nat.le_of_lt_succ hother.lt⟩
  have hdeclares : DeclaresContainer rows 0 "A" :=
    ⟨0, _, hclass, rfl, .top fun outer hsurrounds => Nat.not_lt_zero outer hsurrounds.lt⟩
  have hcontainer : container ∈ members true source := hmembers ▸ List.mem_cons_self
  have hchild : child ∈ container.children := List.mem_cons_self
  obtain ⟨hlatest, hdirect⟩ := child_within_container_iff true source hcontainer hchild
  -- There is no line between the two, and so none that declares the class again.
  have hspans : container.entry.Spans child.startLine :=
    (hdirect 0 hparent hdeclares).2 fun between hafter hbefore => by omega
  exact ⟨hmembers, rfl, hparent, hdeclares, hspans, hlatest.1 hspans⟩

/-- The class in the method has the same qualified name, and takes the method behind it. -/
theorem redeclared_class_takes_later_method :
    let source := "class A:\n  def f():\n    class A:\n      x\n  def g():\n    y\n"
    ∃ container ∈ members true source, ∃ child ∈ container.children,
      ¬container.entry.Spans child.startLine := by
  intro source
  have hmembers : members true source = [.node
      { kind := .classType, name := "A", startLine := 0, endLine := some 5 }
      [.leaf { kind := .method, name := "f", signature := some ⟨"", true⟩, startLine := 1,
               endLine := some 3, column := 2, parent := ancestryOf ["A"] }],
    .node { kind := .classType, name := "A", startLine := 2, endLine := some 3, column := 4 }
      [.leaf { kind := .method, name := "g", signature := some ⟨"", true⟩, startLine := 4,
               endLine := some 5, column := 2, parent := ancestryOf ["A"] }]] := by
    cbv
  rw [hmembers]
  refine ⟨_, List.mem_cons_of_mem _ List.mem_cons_self, _, List.mem_cons_self, ?_⟩
  rintro ⟨-, last, hlast, hle⟩
  cases hlast
  exact absurd hle (by decide)

end Python

end SourceOutline
