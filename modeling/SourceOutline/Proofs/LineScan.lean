/-
A forest that is read line by line keeps the contract of a mapper.

The scan comes first. It meets the lines in order, so the declarations it finds are in
order, and it closes a block no earlier than on the first line of the block. This is
`State.Sound`, kept by every line.

The forest is then built from the declarations, one after the other. A container is
known by its qualified name, and `Container.Sound` ties the name to the ancestry that
goes into the outline: the child path of the container is its name. A member therefore
has the ancestry of the container it is put in, and a container has an owner, because
one of that name is supplied first when there is none. Names may have empty segments
and may be declared more than once; nothing here depends on them being distinct.
-/
import SourceOutline.LineScan.Structure
import SourceOutline.Proofs.Listing

set_option autoImplicit false

namespace SourceOutline

theorem Text.splitAt_ne_nil (cut : Char → Bool) (cs : List Char) : Text.splitAt cut cs ≠ [] := by
  cases cs with
  | nil => simp [Text.splitAt]
  | cons c cs =>
    rw [Text.splitAt]
    split
    · simp
    · split <;> simp

namespace LineScan

variable {σ : Type}

/-! ## The scan -/

theorem segmentsOf_ne_nil (name : String) : segmentsOf name ≠ [] := by
  simp [segmentsOf, Text.splitAt_ne_nil]

/-- A classifier that declares no region markers. -/
def Classifier.Unmarked (classifier : Classifier σ) : Prop :=
  ∀ memory line declaration, (classifier.step memory line).1 = .declaration declaration →
    declaration.kind ≠ .region

/-- What a scan has found before a line. -/
structure State.Sound (next : Nat) (state : State σ) : Prop where
  descending : state.found.Pairwise fun later earlier => earlier.line ≤ later.line
  before : ∀ found ∈ state.found, found.line < next
  named : ∀ found ∈ state.found, found.name ≠ []
  unmarked : ∀ found ∈ state.found, found.declaration.kind ≠ .region
  closed : ∀ block ∈ state.closed, block.first ≤ block.last

theorem State.Sound.closeFrom {next : Nat} {state : State σ} (h : state.Sound next) (indent : Nat) :
    (state.closeFrom indent).Sound next := by
  refine ⟨h.descending, h.before, h.named, h.unmarked, ?_⟩
  intro block hblock
  rw [State.closeFrom] at hblock
  rcases List.mem_append.1 hblock with hnew | hold
  · -- A block without lines of its own is closed on its first line.
    obtain ⟨opened, -, rfl⟩ := List.mem_map.1 (List.mem_reverse.1 hnew)
    exact Nat.le_max_right _ _
  · exact h.closed block hold

/-- The fields that `State.Sound` does not look at may change. -/
theorem State.Sound.congr {next : Nat} {state state' : State σ} (h : state.Sound next)
    (hfound : state'.found = state.found) (hclosed : state'.closed = state.closed) :
    state'.Sound (next + 1) := by
  refine ⟨hfound ▸ h.descending, ?_, hfound ▸ h.named, hfound ▸ h.unmarked, hclosed ▸ h.closed⟩
  intro found hmem
  rw [hfound] at hmem
  exact Nat.lt_succ_of_lt (h.before found hmem)

/-- **One line.** -/
theorem State.Sound.read {classifier : Classifier σ} (hclassifier : classifier.Unmarked)
    {number : Nat} {state : State σ} (h : state.Sound number) (line : List Char) :
    (state.read classifier number line).Sound (number + 1) := by
  rw [State.read]
  split
  · exact h.congr rfl rfl
  · have hclose := h.closeFrom (Text.indent line)
    dsimp only
    generalize state.closeFrom (Text.indent line) = state at hclose ⊢
    split
    · exact hclose.congr rfl rfl
    · exact hclose.congr rfl rfl
    · exact hclose.congr rfl rfl
    · -- A declaration goes in front of those found on earlier lines.
      rename_i declaration hstep
      have hkind : declaration.kind ≠ .region := hclassifier state.memory line declaration hstep
      have hname : ∀ scope : QualifiedName, scope ++ segmentsOf declaration.name ≠ [] := by
        simp [segmentsOf_ne_nil]
      refine ⟨?_, ?_, ?_, ?_, hclose.closed⟩
      · exact List.pairwise_cons.2
          ⟨fun earlier hearlier => Nat.le_of_lt (hclose.before earlier hearlier), hclose.descending⟩
      · refine List.forall_mem_cons.2 ⟨Nat.lt_succ_self number, ?_⟩
        exact fun earlier hearlier => Nat.lt_succ_of_lt (hclose.before earlier hearlier)
      · exact List.forall_mem_cons.2 ⟨hname _, hclose.named⟩
      · exact List.forall_mem_cons.2 ⟨hkind, hclose.unmarked⟩

/-- **All lines.** -/
theorem State.Sound.readAll {classifier : Classifier σ} (hclassifier : classifier.Unmarked)
    {start : Nat} {state : State σ} (h : state.Sound start) (lines : List (List Char)) :
    (state.readAll classifier (Text.numbered start lines)).Sound (start + lines.length) := by
  induction lines generalizing start state with
  | nil => exact h
  | cons line rest ih =>
    have hrest := ih (h.read hclassifier line)
    rw [Nat.add_assoc, Nat.add_comm 1] at hrest
    exact hrest

/-- What the scan of a text gives: declarations in the order of their lines, each with a
name, and blocks that end no earlier than they begin. -/
structure Scanned (found : List Found) (blocks : List Block) : Prop where
  ascending : found.Pairwise fun earlier later => earlier.line ≤ later.line
  named : ∀ declared ∈ found, declared.name ≠ []
  unmarked : ∀ declared ∈ found, declared.declaration.kind ≠ .region
  upright : ∀ block ∈ blocks, block.first ≤ block.last

theorem scanned_scan {classifier : Classifier σ} (hclassifier : classifier.Unmarked)
    (source : String) : Scanned (scan classifier source).1 (scan classifier source).2 := by
  have hstart : State.Sound 0 { memory := classifier.initial } := by
    constructor <;> simp
  have hall := (hstart.readAll hclassifier (Text.lines source)).closeFrom 0
  rw [scan]
  refine ⟨List.pairwise_reverse.2 hall.descending, ?_, ?_, ?_⟩
  · exact fun declared hmem => hall.named declared (List.mem_reverse.1 hmem)
  · exact fun declared hmem => hall.unmarked declared (List.mem_reverse.1 hmem)
  · exact fun block hmem => hall.closed block (List.mem_reverse.1 hmem)

/-! ## Lines of blocks -/

theorem le_lastLineOf {blocks : List Block} (hblocks : ∀ block ∈ blocks, block.first ≤ block.last)
    (line : Nat) : line ≤ lastLineOf blocks line := by
  rw [lastLineOf]
  cases hfound : blocks.find? fun block => block.first == line with
  | none => exact Nat.le_refl _
  | some block =>
    have hfirst : block.first = line := by simpa using List.find?_some hfound
    have hle := hblocks block (List.mem_of_find?_eq_some hfound)
    rw [hfirst] at hle
    exact hle

theorem upright_supplied {blocks : List Block}
    (hblocks : ∀ block ∈ blocks, block.first ≤ block.last) (line : Nat) (name : String)
    (outer : QualifiedName) : (supplied blocks line name outer).entry.Upright := by
  intro last hlast
  rw [supplied, spanOf?] at hlast ⊢
  cases hfound : blocks.find? fun block => block.scope == some (outer ++ [name]) with
  | none =>
    rw [hfound] at hlast
    cases hlast
    exact Nat.le_refl _
  | some block =>
    rw [hfound] at hlast
    cases hlast
    exact hblocks block (List.mem_of_find?_eq_some hfound)

/-! ## Containers under construction -/

/-- A container whose child path is its name, with the members found up to a line. -/
structure Container.Sound (line : Nat) (container : Container) : Prop where
  kind : container.entry.kind.isContainer = true
  path : container.entry.childPath = ancestryOf container.name
  upright : container.entry.Upright
  members : ∀ member ∈ container.members,
    member.Direct (ancestryOf container.name) ∧ member.Settled
  descending : container.members.Pairwise fun later earlier => earlier.startLine ≤ later.startLine
  reached : ∀ member ∈ container.members, member.startLine ≤ line

theorem Container.Sound.mono {line line' : Nat} {container : Container}
    (h : container.Sound line) (hle : line ≤ line') : container.Sound line' :=
  { h with reached := fun member hmember => Nat.le_trans (h.reached member hmember) hle }

theorem childPath_eq_ancestryOf {entry : Entry} {outer : QualifiedName} {name : String}
    (hparent : entry.parent = ancestryOf outer) (hname : entry.name = name) :
    entry.childPath = ancestryOf (outer ++ [name]) := by
  rw [Entry.childPath, hparent, hname]
  rfl

/-- The containers of a forest under construction: each is sound, and each stands at the
top or has an owner among them. -/
structure ContainersSound (line : Nat) (containers : List Container) : Prop where
  sound : ∀ container ∈ containers, container.Sound line
  owned : ∀ container ∈ containers, container.entry.parent.types = []
    ∨ ∃ owner ∈ containers, ancestryOf owner.name = container.entry.parent

theorem ContainersSound.mono {line line' : Nat} {containers : List Container}
    (h : ContainersSound line containers) (hle : line ≤ line') :
    ContainersSound line' containers :=
  ⟨fun container hmem => (h.sound container hmem).mono hle, h.owned⟩

/-- A container may be added once its owner is there. -/
theorem ContainersSound.cons {line : Nat} {containers : List Container} {container : Container}
    (h : ContainersSound line containers) (hsound : container.Sound line)
    (howned : container.entry.parent.types = []
      ∨ ∃ owner ∈ containers, ancestryOf owner.name = container.entry.parent) :
    ContainersSound line (container :: containers) := by
  refine ⟨List.forall_mem_cons.2 ⟨hsound, h.sound⟩, List.forall_mem_cons.2 ⟨?_, ?_⟩⟩
  · refine howned.imp id ?_
    rintro ⟨owner, howner, hpath⟩
    exact ⟨owner, List.mem_cons_of_mem _ howner, hpath⟩
  · intro other hother
    refine (h.owned other hother).imp id ?_
    rintro ⟨owner, howner, hpath⟩
    exact ⟨owner, List.mem_cons_of_mem _ howner, hpath⟩

theorem hasContainer_iff {containers : List Container} {name : QualifiedName} :
    hasContainer containers name = true ↔ ∃ container ∈ containers, container.name = name := by
  simp [hasContainer]

theorem sound_supplied {blocks : List Block}
    (hblocks : ∀ block ∈ blocks, block.first ≤ block.last) (line line' : Nat) (name : String)
    (outer : QualifiedName) : (supplied blocks line name outer).Sound line' where
  kind := rfl
  path := childPath_eq_ancestryOf rfl rfl
  upright := upright_supplied hblocks line name outer
  members := List.forall_mem_nil _
  descending := .nil
  reached := List.forall_mem_nil _

/-- Once a name is supplied there is a container of that name. -/
theorem exists_mem_supply (blocks : List Block) (line : Nat) (containers : List Container)
    {name : QualifiedName} (hname : name ≠ []) :
    ∃ container ∈ supply blocks line containers name.reverse, container.name = name := by
  obtain ⟨last, outer, hreverse⟩ := List.exists_cons_of_ne_nil (List.reverse_ne_nil_iff.2 hname)
  have hsplit : outer.reverse ++ [last] = name := by
    rw [← List.reverse_cons, ← hreverse, List.reverse_reverse]
  rw [hreverse, supply]
  split
  · rename_i hthere
    rw [List.reverse_cons, hsplit] at hthere
    exact hasContainer_iff.1 hthere
  · exact ⟨_, List.mem_cons_self, hsplit⟩

/-- Supplying a name keeps the containers sound. The induction is on the segments, innermost
first, so that the owner of what is supplied is there by the time it is. -/
theorem ContainersSound.supply {blocks : List Block}
    (hblocks : ∀ block ∈ blocks, block.first ≤ block.last) {line : Nat}
    {containers : List Container} (h : ContainersSound line containers) (segments : List String) :
    ContainersSound line (supply blocks line containers segments) := by
  induction segments with
  | nil => exact h
  | cons name outer ih =>
    rw [LineScan.supply]
    split
    · exact h
    · refine ih.cons (sound_supplied hblocks line line name outer.reverse) ?_
      by_cases houter : outer.reverse = []
      · exact .inl houter
      · obtain ⟨owner, hmem, hname⟩ := exists_mem_supply blocks line containers houter
        rw [List.reverse_reverse] at hmem
        exact .inr ⟨owner, hmem, by rw [hname]; rfl⟩

/-- Adding a member changes the members of one container, and no name or entry. -/
theorem mem_addMember {name : QualifiedName} {member : Member} {containers : List Container}
    {container : Container} (h : container ∈ addMember name member containers) :
    container ∈ containers
      ∨ ∃ before ∈ containers, before.name = name
        ∧ container = { before with members := member :: before.members } := by
  induction containers with
  | nil => cases h
  | cons first rest ih =>
    rw [addMember] at h
    split at h
    · rename_i hname
      rcases List.mem_cons.1 h with rfl | h
      · exact .inr ⟨first, List.mem_cons_self, eq_of_beq hname, rfl⟩
      · exact .inl (List.mem_cons_of_mem _ h)
    · rcases List.mem_cons.1 h with rfl | h
      · exact .inl List.mem_cons_self
      · rcases ih h with h | ⟨before, hmem, hbefore⟩
        · exact .inl (List.mem_cons_of_mem _ h)
        · exact .inr ⟨before, List.mem_cons_of_mem _ hmem, hbefore⟩

theorem map_name_addMember (name : QualifiedName) (member : Member) (containers : List Container) :
    (addMember name member containers).map Container.name = containers.map Container.name := by
  induction containers with
  | nil => rfl
  | cons first rest ih =>
    rw [addMember]
    split
    · rfl
    · rw [List.map_cons, ih, List.map_cons]

theorem ContainersSound.addMember {line : Nat} {containers : List Container}
    (h : ContainersSound line containers) {name : QualifiedName} {member : Member}
    (hmember : member.Direct (ancestryOf name)) (hsettled : member.Settled)
    (hline : member.startLine = line) :
    ContainersSound line (addMember name member containers) := by
  -- No name changes, so whoever had an owner still has one.
  have hnames : ∀ path, (∃ owner ∈ containers, ancestryOf owner.name = path) →
      ∃ owner ∈ LineScan.addMember name member containers, ancestryOf owner.name = path := by
    rintro path ⟨owner, howner, rfl⟩
    have hmem : owner.name ∈ (LineScan.addMember name member containers).map Container.name := by
      rw [map_name_addMember]
      exact List.mem_map_of_mem howner
    obtain ⟨owner', howner', hname⟩ := List.mem_map.1 hmem
    exact ⟨owner', howner', by rw [hname]⟩
  constructor
  · intro container hmem
    rcases mem_addMember hmem with hold | ⟨before, hbefore, rfl, rfl⟩
    · exact h.sound container hold
    · -- The new member is the last one so far, so it comes first in the list.
      have hsound := h.sound before hbefore
      refine ⟨hsound.kind, hsound.path, hsound.upright, ?_, ?_, ?_⟩
      · exact List.forall_mem_cons.2 ⟨⟨hmember, hsettled⟩, hsound.members⟩
      · refine List.pairwise_cons.2 ⟨fun earlier hearlier => ?_, hsound.descending⟩
        rw [hline]
        exact hsound.reached earlier hearlier
      · exact List.forall_mem_cons.2 ⟨Nat.le_of_eq hline, hsound.reached⟩
  · intro container hmem
    rcases mem_addMember hmem with hold | ⟨before, hbefore, rfl, rfl⟩
    · exact (h.owned container hold).imp id (hnames _)
    · exact (h.owned before hbefore).imp id (hnames _)

/-! ## Declarations one after the other -/

/-- A forest under construction. -/
structure Parts.Sound (line : Nat) (parts : Parts) : Prop where
  containers : ContainersSound line parts.containers
  loose : ∀ member ∈ parts.loose, member.Direct .root ∧ member.Settled

theorem upright_entry {blocks : List Block} (hblocks : ∀ block ∈ blocks, block.first ≤ block.last)
    (found : Found) : (found.entry blocks).Upright := by
  intro last hlast
  cases hlast
  exact le_lastLineOf hblocks found.line

/-- A name is its qualifiers with the last segment behind them. -/
theorem dropLast_append_getLast? {name : QualifiedName} (hne : name ≠ []) :
    name.dropLast ++ [name.getLast?.getD ""] = name := by
  rw [List.getLast?_eq_getLast_of_ne_nil hne]
  exact List.dropLast_append_getLast hne

/-- What is declared inside has the name of the declaration for an ancestry. -/
theorem Found.childPath_entry (blocks : List Block) {found : Found} (hname : found.name ≠ []) :
    (found.entry blocks).childPath = ancestryOf found.name := by
  have hpath : (found.entry blocks).childPath
      = ancestryOf (found.name.dropLast ++ [found.name.getLast?.getD ""]) :=
    childPath_eq_ancestryOf rfl rfl
  rw [hpath, dropLast_append_getLast? hname]

/-- **One declaration.** -/
theorem Parts.Sound.add {blocks : List Block} (hblocks : ∀ block ∈ blocks, block.first ≤ block.last)
    {line : Nat} {parts : Parts} (h : parts.Sound line) {found : Found} (hline : line ≤ found.line)
    (hname : found.name ≠ []) (hkind : found.declaration.kind ≠ .region) :
    (parts.add blocks found).Sound found.line := by
  have hcontainers := h.containers.mono hline
  have hsupply := hcontainers.supply hblocks found.name.dropLast.reverse
  have hupright := upright_entry hblocks found
  rw [Parts.add]
  split
  · -- A container: its owner is there, or it has no qualifiers.
    rename_i hcontainer
    have hpath := Found.childPath_entry blocks hname
    refine ⟨hsupply.cons ⟨hcontainer, hpath, hupright, List.forall_mem_nil _, .nil,
      List.forall_mem_nil _⟩ ?_, h.loose⟩
    by_cases hqualifiers : found.name.dropLast = []
    · exact .inl hqualifiers
    · obtain ⟨owner, hmem, howner⟩ :=
        exists_mem_supply blocks found.line parts.containers hqualifiers
      exact .inr ⟨owner, hmem, by rw [howner]; rfl⟩
  · rename_i hcontainer
    have hplain : (Member.leaf (found.entry blocks)).isContainer = false :=
      Bool.eq_false_iff.2 hcontainer
    -- Anything else is a member of the container that is supplied, or loose.
    split
    · rename_i hqualifiers
      refine ⟨hsupply, List.forall_mem_cons.2 ⟨⟨⟨hplain, hkind, ?_⟩, .leaf hupright⟩, h.loose⟩⟩
      exact congrArg ancestryOf (List.isEmpty_iff.1 hqualifiers)
    · exact ⟨hsupply.addMember ⟨hplain, hkind, rfl⟩ (.leaf hupright) rfl, h.loose⟩

/-- **All declarations.** -/
theorem Parts.Sound.addAll {blocks : List Block}
    (hblocks : ∀ block ∈ blocks, block.first ≤ block.last) {line : Nat} {parts : Parts}
    (h : parts.Sound line) {found : List Found}
    (hascending : found.Pairwise fun earlier later => earlier.line ≤ later.line)
    (hreached : ∀ declared ∈ found, line ≤ declared.line)
    (hnamed : ∀ declared ∈ found, declared.name ≠ [])
    (hunmarked : ∀ declared ∈ found, declared.declaration.kind ≠ .region) :
    ∃ line', (found.foldl (Parts.add blocks) parts).Sound line' := by
  induction found generalizing line parts with
  | nil => exact ⟨line, h⟩
  | cons first rest ih =>
    obtain ⟨hfirst, hrest⟩ := List.pairwise_cons.1 hascending
    obtain ⟨hline, -⟩ := List.forall_mem_cons.1 hreached
    obtain ⟨hname, hnames⟩ := List.forall_mem_cons.1 hnamed
    obtain ⟨hkind, hkinds⟩ := List.forall_mem_cons.1 hunmarked
    exact ih (h.add hblocks hline hname hkind) hrest hfirst hnames hkinds

/-! ## The forest -/

theorem Container.Sound.settled {line : Nat} {container : Container} (h : container.Sound line) :
    container.member.Settled :=
  .of_children h.upright (List.pairwise_reverse.2 h.descending)
    fun child hchild => (h.members child (List.mem_reverse.1 hchild)).2

theorem Container.Sound.listed {line : Nat} {container : Container} {owner : Ancestry → Prop}
    (h : container.Sound line)
    (howned : container.entry.parent.types = [] ∨ owner container.entry.parent) :
    container.member.Listed owner := by
  refine Member.listed_of_container h.kind ?_ howned
  intro child hchild
  have hpath : container.member.entry.childPath = ancestryOf container.name := h.path
  rw [hpath]
  exact (h.members child (List.mem_reverse.1 hchild)).1

/-- **What is read line by line is well-formed.** -/
theorem wellFormed_forest {classifier : Classifier σ} (hclassifier : classifier.Unmarked)
    (source : String) : (forest classifier source).WellFormed := by
  have hscan := scanned_scan hclassifier source
  rw [forest]
  generalize scan classifier source = scanned at hscan
  obtain ⟨found, blocks⟩ := scanned
  have hstart : Parts.Sound 0 {} :=
    ⟨⟨List.forall_mem_nil _, List.forall_mem_nil _⟩, List.forall_mem_nil _⟩
  obtain ⟨line, hsound⟩ := hstart.addAll hscan.upright hscan.ascending
    (fun _ _ => Nat.zero_le _) hscan.named hscan.unmarked
  dsimp only
  rw [structured]
  generalize found.foldl (Parts.add blocks) {} = parts at hsound
  have hcases : ∀ member ∈ parts.containers.reverse.map Container.member ++ parts.loose.reverse,
      (∃ container ∈ parts.containers, container.member = member) ∨ member ∈ parts.loose := by
    intro member hmember
    simpa using hmember
  refine Forest.Listed.wellFormed_sortByLine ?_ ?_
  · intro member hmember
    rcases hcases member hmember with ⟨container, hcontainer, rfl⟩ | hloose
    · refine (hsound.containers.sound container hcontainer).listed ?_
      refine (hsound.containers.owned container hcontainer).imp id ?_
      rintro ⟨owner, howner, hpath⟩
      have hownerSound := hsound.containers.sound owner howner
      refine Forest.mem_owners.2 ⟨owner.member, ?_, hownerSound.kind, hownerSound.path.trans hpath⟩
      simp only [List.mem_append, List.mem_map, List.mem_reverse]
      exact .inl ⟨owner, howner, rfl⟩
    · exact (hsound.loose member hloose).1.listed _
  · intro member hmember
    rcases hcases member hmember with ⟨container, hcontainer, rfl⟩ | hloose
    · exact (hsound.containers.sound container hcontainer).settled
    · exact (hsound.loose member hloose).2

end LineScan

end SourceOutline
