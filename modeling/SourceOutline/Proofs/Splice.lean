/-
Splicing keeps the two sides of a region together.

A forest that markers are spliced into has as many levels as places for a marker:
the file itself, and the children of each member of the file. `Forest.siblings`
gives the entries of one level, and `Forest.slot` tells which level a placement
means. With these the effect of placing a marker is one equation,
`Forest.siblings_place`: the level of the placement has one entry more, and every
other level is what it was.

Markers come in the order of their lines. At every level those placed so far
therefore stand before the first entry that begins after the line reached, so the
next one goes behind all of them, whatever the order of the other members is. Hence
reading a level as brackets leaves exactly the open regions placed there on the
stack. This is `Splicing`, kept by each marker and so, at the end, true with no
region open.
-/
import Mathlib.Data.List.DropRight
import SourceOutline.Proofs.Scan
import SourceOutline.Region.Placement

set_option autoImplicit false

namespace SourceOutline

/-! ## Inserting by line -/

/-- Puts an entry behind the leading ones that start no later. -/
def insertEntryByLine (entry : Entry) (level : List Entry) : List Entry :=
  level.takeWhile (fun other => decide (other.startLine ≤ entry.startLine)) ++ entry
    :: level.dropWhile (fun other => decide (other.startLine ≤ entry.startLine))

theorem Forest.map_entry_insertByLine (member : Member) (forest : Forest) :
    (forest.insertByLine member).map Member.entry
      = insertEntryByLine member.entry (forest.map Member.entry) := by
  induction forest with
  | nil => rfl
  | cons other rest ih =>
    rw [Forest.insertByLine, insertEntryByLine, List.map_cons, List.takeWhile_cons,
      List.dropWhile_cons]
    by_cases h : other.startLine ≤ member.startLine
    · have hentry : decide (other.entry.startLine ≤ member.entry.startLine) = true :=
        decide_eq_true h
      rw [if_pos h, if_pos hentry, if_pos hentry, List.map_cons, ih]
      rfl
    · have hentry : ¬decide (other.entry.startLine ≤ member.entry.startLine) = true :=
        fun hle => h (of_decide_eq_true hle)
      rw [if_neg h, if_neg hentry, if_neg hentry]
      rfl

theorem Forest.mem_insertByLine {member other : Member} {forest : Forest} :
    other ∈ forest.insertByLine member ↔ other = member ∨ other ∈ forest := by
  induction forest with
  | nil => simp [Forest.insertByLine]
  | cons first rest ih =>
    rw [Forest.insertByLine]
    split
    · rw [List.mem_cons, ih, List.mem_cons]
      exact or_left_comm
    · rw [List.mem_cons]

/-! ## Levels -/

/-- The members of a level that are no markers. -/
def Forest.hosts (forest : Forest) : Forest :=
  forest.filter fun member => member.entry.kind != .region

/-- The entries of a level: of the file itself, or of the children of one of its
hosts. -/
def Forest.siblings (forest : Forest) : Option Nat → List Entry
  | none => forest.map Member.entry
  | some k => ((forest.hosts[k]?.map Member.children).getD []).map Member.entry

/-- Whether an entry is the container that a placement names. -/
def Entry.isOwner (startLine : Nat) (path : Ancestry) (entry : Entry) : Bool :=
  entry.kind.isContainer && entry.startLine == startLine && entry.childPath == path

/-- The level that a placement means. -/
def Forest.slot (forest : Forest) : Placement → Option Nat
  | .topLevel _ => none
  | .inside startLine path =>
    (forest.hosts.map Member.entry).findIdx? (Entry.isOwner startLine path)

/-- The ancestry of what is put there. -/
def Placement.path : Placement → Ancestry
  | .topLevel path => path
  | .inside _ path => path

/-- A placement inside a container needs that container. -/
def Forest.Settles (forest : Forest) : Placement → Prop
  | .topLevel _ => True
  | .inside startLine path => (forest.slot (.inside startLine path)).isSome = true

theorem Forest.map_entry_hosts (forest : Forest) :
    forest.hosts.map Member.entry
      = (forest.map Member.entry).filter fun entry => entry.kind != .region := by
  rw [Forest.hosts, List.filter_map]
  rfl

theorem Forest.hosts_cons_of_ne {member : Member} (h : member.entry.kind ≠ .region)
    (rest : Forest) : Forest.hosts (member :: rest) = member :: rest.hosts :=
  List.filter_cons_of_pos (bne_iff_ne.2 h)

theorem Forest.hosts_cons_of_eq {member : Member} (h : member.entry.kind = .region)
    (rest : Forest) : Forest.hosts (member :: rest) = rest.hosts :=
  List.filter_cons_of_neg (fun hne => bne_iff_ne.1 hne h)

theorem Forest.hosts_insertByLine {member : Member} (h : member.entry.kind = .region)
    (forest : Forest) : (forest.insertByLine member).hosts = forest.hosts := by
  induction forest with
  | nil => exact Forest.hosts_cons_of_eq h []
  | cons other rest ih =>
    rw [Forest.insertByLine]
    split
    · by_cases hother : other.entry.kind = .region
      · rw [Forest.hosts_cons_of_eq hother, Forest.hosts_cons_of_eq hother, ih]
      · rw [Forest.hosts_cons_of_ne hother, Forest.hosts_cons_of_ne hother, ih]
    · exact Forest.hosts_cons_of_eq h _

/-- Owners are containers, and so never markers. -/
theorem Member.kind_ne_region_of_isOwner {startLine : Nat} {path : Ancestry} {member : Member}
    (h : member.isOwner startLine path = true) : member.entry.kind ≠ .region := by
  intro hkind
  simp [Member.isOwner, Member.isContainer, hkind, Kind.isContainer] at h

/-- Putting a marker inside a container changes the children of that one host. -/
theorem Forest.insertInside?_eq {startLine : Nat} {path : Ancestry} (marker : Member)
    {forest : Forest} {k : Nat}
    (h : forest.slot (.inside startLine path) = some k) :
    ∃ forest', forest.insertInside? startLine path marker = some forest'
      ∧ forest'.map Member.entry = forest.map Member.entry
      ∧ forest'.hosts = forest.hosts.modify k (fun host =>
          .node host.entry (Forest.insertByLine (marker.under path) host.children)) := by
  rw [Forest.slot] at h
  induction forest generalizing k with
  | nil => cases h
  | cons member rest ih =>
    rw [Forest.insertInside?]
    by_cases howner : member.isOwner startLine path = true
    · have hhost := Member.kind_ne_region_of_isOwner howner
      have hentry : member.entry.isOwner startLine path = true := howner
      rw [Forest.hosts_cons_of_ne hhost, List.map_cons, List.findIdx?_cons, if_pos hentry] at h
      cases h
      rw [if_pos howner]
      refine ⟨_, rfl, rfl, ?_⟩
      have hhost' : (Member.node member.entry
          (Forest.insertByLine (marker.under path) member.children)).entry.kind ≠ .region := hhost
      rw [Forest.hosts_cons_of_ne hhost, Forest.hosts_cons_of_ne hhost', List.modify_zero_cons]
    · rw [if_neg howner]
      -- A marker is no host, so passing it over does not count.
      by_cases hhost : member.entry.kind = .region
      · rw [Forest.hosts_cons_of_eq hhost] at h
        obtain ⟨forest', hinsert, hentries, hhosts⟩ := ih h
        refine ⟨member :: forest', by rw [hinsert]; rfl, by rw [List.map_cons, hentries]; rfl, ?_⟩
        rw [Forest.hosts_cons_of_eq hhost, Forest.hosts_cons_of_eq hhost, hhosts]
      · have hentry : ¬member.entry.isOwner startLine path = true := howner
        rw [Forest.hosts_cons_of_ne hhost, List.map_cons, List.findIdx?_cons, if_neg hentry] at h
        obtain ⟨k, hk, rfl⟩ := Option.map_eq_some_iff.1 h
        obtain ⟨forest', hinsert, hentries, hhosts⟩ := ih hk
        refine ⟨member :: forest', by rw [hinsert]; rfl, by rw [List.map_cons, hentries]; rfl, ?_⟩
        rw [Forest.hosts_cons_of_ne hhost, Forest.hosts_cons_of_ne hhost, hhosts,
          List.modify_succ_cons]

/-! ## Placing one marker -/

/-- The entry with another ancestry. -/
def Entry.under (path : Ancestry) (entry : Entry) : Entry :=
  { entry with parent := path }

theorem Member.entry_under (path : Ancestry) (member : Member) :
    (member.under path).entry = member.entry.under path := by
  cases member with
  | node entry children => rfl

/-- Placing a marker keeps the hosts in their order. -/
theorem Forest.map_entry_hosts_place {forest : Forest} {marker : Member} {placement : Placement}
    (hmarker : marker.entry.kind = .region) (h : forest.Settles placement) :
    (forest.place marker placement).hosts.map Member.entry = forest.hosts.map Member.entry := by
  cases placement with
  | topLevel path =>
    rw [Forest.place, Forest.hosts_insertByLine (by rw [Member.entry_under]; exact hmarker)]
  | inside startLine path =>
    obtain ⟨k, hk⟩ := Option.isSome_iff_exists.1 h
    obtain ⟨forest', hinsert, hentries, -⟩ := Forest.insertInside?_eq marker hk
    rw [Forest.place, hinsert]
    dsimp only
    rw [Forest.map_entry_hosts, Forest.map_entry_hosts, hentries]

/-- The levels that placements mean stay the same. -/
theorem Forest.slot_place {forest : Forest} {marker : Member} {placement : Placement}
    (hmarker : marker.entry.kind = .region) (h : forest.Settles placement) (other : Placement) :
    (forest.place marker placement).slot other = forest.slot other := by
  cases other with
  | topLevel path => rfl
  | inside startLine path => rw [Forest.slot, Forest.map_entry_hosts_place hmarker h, Forest.slot]

theorem Forest.settles_place {forest : Forest} {marker : Member} {placement : Placement}
    (hmarker : marker.entry.kind = .region) (h : forest.Settles placement) {other : Placement}
    (hother : forest.Settles other) : (forest.place marker placement).Settles other := by
  cases other with
  | topLevel path => trivial
  | inside startLine path => rwa [Forest.Settles, Forest.slot_place hmarker h]

/-- **Placing a marker.** The level of its placement has one entry more, by line and
with the ancestry of the placement, and every other level is what it was. -/
theorem Forest.siblings_place {forest : Forest} {marker : Member} {placement : Placement}
    (hmarker : marker.entry.kind = .region) (h : forest.Settles placement)
    (level : Option Nat) :
    (forest.place marker placement).siblings level
      = if level = forest.slot placement then
          insertEntryByLine (marker.entry.under placement.path) (forest.siblings level)
        else forest.siblings level := by
  cases placement with
  | topLevel path =>
    rw [Forest.place, Forest.slot]
    cases level with
    | none =>
      rw [if_pos rfl, Forest.siblings, Forest.map_entry_insertByLine, Member.entry_under]
      rfl
    | some k =>
      rw [if_neg (by simp), Forest.siblings,
        Forest.hosts_insertByLine (by rw [Member.entry_under]; exact hmarker)]
      rfl
  | inside startLine path =>
    obtain ⟨k, hk⟩ := Option.isSome_iff_exists.1 h
    obtain ⟨forest', hinsert, hentries, hhosts⟩ := Forest.insertInside?_eq marker hk
    rw [Forest.place, hinsert, hk]
    dsimp only
    cases level with
    | none => rw [if_neg (by simp), Forest.siblings, hentries, Forest.siblings]
    | some j =>
      rw [Forest.siblings, Forest.siblings, hhosts, List.getElem?_modify]
      by_cases hj : k = j
      · subst hj
        obtain ⟨hlt, -⟩ := List.findIdx?_eq_some_iff_getElem.1 hk
        rw [List.length_map] at hlt
        have hhost := List.getElem?_eq_getElem hlt
        generalize forest.hosts[k] = host at hhost
        rw [if_pos rfl, hhost]
        simp only [Option.map_eq_map, Option.map_some, Option.getD_some, if_true]
        rw [show (Member.node host.entry (Forest.insertByLine (marker.under path) host.children)).children
          = Forest.insertByLine (marker.under path) host.children from rfl,
          Forest.map_entry_insertByLine, Member.entry_under]
        rfl
      · rw [if_neg (fun heq => hj (Option.some.inj heq).symm)]
        simp only [hj, if_false, Option.map_eq_map, Option.map_id']

/-! ## Where the markers of a level stand -/

/-- All markers of a level stand before its first entry that begins after a line. -/
def Reached (line : Nat) (level : List Entry) : Prop :=
  ∀ entry ∈ level.dropWhile (fun entry => decide (entry.startLine ≤ line)), ¬entry.isMark = true

/-- The markers of a level are in the order of their lines. -/
def MarksOrdered (level : List Entry) : Prop :=
  (level.filter Entry.isMark).Pairwise fun first second => first.startLine ≤ second.startLine

theorem Reached.mono {line line' : Nat} {level : List Entry} (h : Reached line level)
    (hle : line ≤ line') : Reached line' level := by
  intro entry hentry
  refine h entry ?_
  clear h
  induction level with
  | nil => exact hentry
  | cons first rest ih =>
    rw [List.dropWhile_cons]
    split
    · rename_i hfirst
      have hfirst' : decide (first.startLine ≤ line') = true :=
        decide_eq_true ((of_decide_eq_true hfirst).trans hle)
      rw [List.dropWhile_cons, if_pos hfirst'] at hentry
      exact ih hentry
    · exact (List.dropWhile_sublist _).subset hentry

theorem Entry.bracket?_of_isMark {entry : Entry} (h : entry.isMark = true) :
    entry.bracket? = some ⟨entry.region, entry.name, entry.parent⟩ :=
  if_pos (eq_of_beq h)

theorem Entry.bracket?_of_not_isMark {entry : Entry} (h : ¬entry.isMark = true) :
    entry.bracket? = none :=
  if_neg (fun hkind => h (beq_iff_eq.2 hkind))

theorem brackets_eq_nil {level : List Entry} (h : ∀ entry ∈ level, ¬entry.isMark = true) :
    brackets level = [] :=
  List.filterMap_eq_nil_iff.2 fun entry hentry => Entry.bracket?_of_not_isMark (h entry hentry)

section Insertion

variable {line : Nat} {level : List Entry} {entry : Entry}

/-- The next marker goes behind all the others. -/
theorem brackets_insertEntryByLine (h : Reached line level) (hline : line ≤ entry.startLine)
    (hentry : entry.isMark = true) :
    brackets (insertEntryByLine entry level)
      = brackets level ++ [⟨entry.region, entry.name, entry.parent⟩] := by
  have hrest := brackets_eq_nil (h.mono hline)
  have hlevel : brackets level
      = brackets (level.takeWhile fun other => decide (other.startLine ≤ entry.startLine)) := by
    conv_lhs => rw [← List.takeWhile_append_dropWhile
      (p := fun other => decide (other.startLine ≤ entry.startLine)) (l := level)]
    rw [brackets_append, hrest, List.append_nil]
  rw [insertEntryByLine, brackets_append, ← hlevel]
  congr 1
  rw [brackets, List.filterMap_cons_some (Entry.bracket?_of_isMark hentry)]
  exact congrArg _ hrest

theorem startLine_le_of_mem_takeWhile {line : Nat} {level : List Entry} {other : Entry}
    (h : other ∈ level.takeWhile fun entry => decide (entry.startLine ≤ line)) :
    other.startLine ≤ line := by
  have hp := List.mem_takeWhile_imp (p := fun entry : Entry => decide (entry.startLine ≤ line)) h
  exact of_decide_eq_true hp

theorem dropWhile_insertEntryByLine (entry : Entry) (level : List Entry) :
    (insertEntryByLine entry level).dropWhile
        (fun other => decide (other.startLine ≤ entry.startLine))
      = level.dropWhile fun other => decide (other.startLine ≤ entry.startLine) := by
  rw [insertEntryByLine, List.dropWhile_append_of_pos, List.dropWhile_cons, if_pos (by simp),
    List.dropWhile_idempotent]
  intro other hother
  exact decide_eq_true (startLine_le_of_mem_takeWhile hother)

theorem reached_insertEntryByLine (h : Reached line level) (hline : line ≤ entry.startLine) :
    Reached entry.startLine (insertEntryByLine entry level) := by
  rw [Reached, dropWhile_insertEntryByLine]
  exact h.mono hline

theorem marksOrdered_insertEntryByLine (h : Reached line level) (hordered : MarksOrdered level)
    (hline : line ≤ entry.startLine) (hentry : entry.isMark = true) :
    MarksOrdered (insertEntryByLine entry level) := by
  have hrest : (level.dropWhile fun other => decide (other.startLine ≤ entry.startLine)).filter
      Entry.isMark = [] := List.filter_eq_nil_iff.2 (h.mono hline)
  rw [MarksOrdered, insertEntryByLine, List.filter_append, List.filter_cons_of_pos hentry, hrest]
  refine List.pairwise_append.2 ⟨?_, List.pairwise_singleton _ _, ?_⟩
  · exact hordered.sublist ((List.takeWhile_sublist _).filter _)
  · intro other hother last hlast
    rw [List.mem_singleton.1 hlast]
    exact startLine_le_of_mem_takeWhile (List.mem_filter.1 hother).1

end Insertion

/-! ## The invariant of splicing -/

/-- A member without a marker anywhere in it. -/
def Member.Unmarked (member : Member) : Prop :=
  ∀ entry ∈ member.entries, ¬entry.isMark = true

/-- Markers stand in the file itself and among the children of its members, and
nowhere else. -/
def Forest.Shallow (forest : Forest) : Prop :=
  ∀ member ∈ forest, member.IsMark
    ∨ ¬member.entry.isMark = true ∧ ∀ child ∈ member.children, child.IsMark ∨ child.Unmarked

/-- The bracket with the ancestry of a placement. -/
def Bracket.under (path : Ancestry) (bracket : Bracket) : Bracket :=
  { bracket with parent := path }

/-- The open regions of one level, the innermost first. -/
def Forest.openAt (forest : Forest) (opened : List (Bracket × Placement)) (level : Option Nat) :
    List Bracket :=
  (opened.filter fun region => decide (level = forest.slot region.2)).map fun region =>
    region.1.under region.2.path

/-- A forest in the middle of splicing: the markers up to a line are in, and some
regions are open, each with its placement. -/
structure Splicing (line : Nat) (opened : List (Bracket × Placement)) (forest : Forest) :
    Prop where
  shallow : forest.Shallow
  reached : ∀ level, Reached line (forest.siblings level)
  ordered : ∀ level, MarksOrdered (forest.siblings level)
  /-- Reading a level leaves the regions that are open there. -/
  followed : ∀ level, Bracket.follow [] (brackets (forest.siblings level))
    = some (forest.openAt opened level)
  settled : ∀ region ∈ opened, forest.Settles region.2
  opens : ∀ region ∈ opened, region.1.boundary? = some .start

theorem Member.isMark_under {member : Member} (h : member.IsMark) (path : Ancestry) :
    (member.under path).IsMark := by
  cases member with
  | node entry children => exact h

theorem Forest.shallow_insertByLine {forest : Forest} {marker : Member} (h : forest.Shallow)
    (hmarker : marker.IsMark) : (forest.insertByLine marker).Shallow := by
  intro member hmember
  rcases Forest.mem_insertByLine.1 hmember with rfl | hold
  · exact .inl hmarker
  · exact h member hold

theorem Forest.shallow_insertInside? {forest forest' : Forest} {marker : Member} {startLine : Nat}
    {path : Ancestry} (h : forest.Shallow) (hmarker : marker.IsMark)
    (hinsert : forest.insertInside? startLine path marker = some forest') : forest'.Shallow := by
  induction forest generalizing forest' with
  | nil => cases hinsert
  | cons first rest ih =>
    obtain ⟨hfirst, hrest⟩ := List.forall_mem_cons.1 h
    rw [Forest.insertInside?] at hinsert
    split at hinsert
    · rename_i howner
      cases hinsert
      refine List.forall_mem_cons.2 ⟨.inr ?_, hrest⟩
      have hhost : ¬first.entry.isMark = true := by
        intro hmark
        exact Member.kind_ne_region_of_isOwner howner (eq_of_beq hmark)
      refine ⟨hhost, fun child hchild => ?_⟩
      rcases Forest.mem_insertByLine.1 hchild with rfl | hold
      · exact .inl (Member.isMark_under hmarker path)
      · rcases hfirst with hmark | ⟨-, hchildren⟩
        · exact absurd hmark.1 hhost
        · exact hchildren child hold
    · obtain ⟨forest'', hinsert', rfl⟩ := Option.map_eq_some_iff.1 hinsert
      exact List.forall_mem_cons.2 ⟨hfirst, ih hrest hinsert'⟩

theorem Forest.shallow_place {forest : Forest} {marker : Member} (h : forest.Shallow)
    (hmarker : marker.IsMark) (placement : Placement) :
    (forest.place marker placement).Shallow := by
  cases placement with
  | topLevel path => exact Forest.shallow_insertByLine h (Member.isMark_under hmarker path)
  | inside startLine path =>
    rw [Forest.place]
    split
    · rename_i forest' hinsert
      exact Forest.shallow_insertInside? h hmarker hinsert
    · exact Forest.shallow_insertByLine h (Member.isMark_under hmarker .root)

/-! ## One marker -/

theorem Forest.openAt_cons (forest : Forest) (region : Bracket × Placement)
    (opened : List (Bracket × Placement)) (level : Option Nat) :
    forest.openAt (region :: opened) level
      = if level = forest.slot region.2 then
          region.1.under region.2.path :: forest.openAt opened level
        else forest.openAt opened level := by
  rw [Forest.openAt, List.filter_cons]
  by_cases h : level = forest.slot region.2
  · rw [if_pos (decide_eq_true h), if_pos h]
    rfl
  · rw [if_neg (fun hd => h (of_decide_eq_true hd)), if_neg h]
    rfl

/-- What placing a marker keeps, whether it opens or closes a region. At its level the
marker is read on top of what is open there. -/
theorem Splicing.place {line : Nat} {opened opened' : List (Bracket × Placement)}
    {forest : Forest} {marker : Member} {placement : Placement}
    (h : Splicing line opened forest) (hmarker : marker.IsMark)
    (hline : line ≤ marker.startLine) (hsettles : forest.Settles placement)
    (hhere : Bracket.step (forest.openAt opened (forest.slot placement))
        (marker.bracket.under placement.path)
      = some (forest.openAt opened' (forest.slot placement)))
    (helsewhere : ∀ level, level ≠ forest.slot placement →
      forest.openAt opened level = forest.openAt opened' level)
    (hsettled : ∀ region ∈ opened', forest.Settles region.2)
    (hopens : ∀ region ∈ opened', region.1.boundary? = some .start) :
    Splicing marker.startLine opened' (forest.place marker placement) := by
  have hkind : marker.entry.kind = .region := eq_of_beq hmarker.1
  have hopenAt : ∀ level, (forest.place marker placement).openAt opened' level
      = forest.openAt opened' level := by
    intro level
    simp only [Forest.openAt, Forest.slot_place hkind hsettles]
  -- The ancestry that the marker gets changes neither its line nor that it is one.
  have hline' : line ≤ (marker.entry.under placement.path).startLine := hline
  have hmark : (marker.entry.under placement.path).isMark = true := hmarker.1
  refine ⟨Forest.shallow_place h.shallow hmarker placement, ?_, ?_, ?_, ?_, hopens⟩
  · intro level
    rw [Forest.siblings_place hkind hsettles]
    split
    · exact reached_insertEntryByLine (h.reached level) hline'
    · exact (h.reached level).mono hline
  · intro level
    rw [Forest.siblings_place hkind hsettles]
    split
    · exact marksOrdered_insertEntryByLine (h.reached level) (h.ordered level) hline' hmark
    · exact h.ordered level
  · intro level
    rw [Forest.siblings_place hkind hsettles, hopenAt]
    split
    · rename_i hlevel
      subst hlevel
      rw [brackets_insertEntryByLine (h.reached _) hline' hmark,
        Bracket.follow_concat (h.followed _)]
      exact hhere
    · rename_i hlevel
      rw [h.followed level, helsewhere level hlevel]
  · intro region hregion
    exact Forest.settles_place hkind hsettles (hsettled region hregion)

/-- A marker that opens a region. -/
theorem Splicing.open {line : Nat} {opened : List (Bracket × Placement)} {forest : Forest}
    {marker : Member} {placement : Placement} (h : Splicing line opened forest)
    (hmarker : marker.IsMark) (hline : line ≤ marker.startLine)
    (hsettles : forest.Settles placement) (hopen : marker.bracket.boundary? = some .start) :
    Splicing marker.startLine ((marker.bracket, placement) :: opened)
      (forest.place marker placement) := by
  refine h.place hmarker hline hsettles ?_ ?_ ?_ ?_
  · rw [Forest.openAt_cons, if_pos rfl]
    have hopen' : (marker.bracket.under placement.path).boundary? = some .start := hopen
    exact Bracket.step_open hopen' _
  · intro level hlevel
    rw [Forest.openAt_cons, if_neg hlevel]
  · exact List.forall_mem_cons.2 ⟨hsettles, h.settled⟩
  · exact List.forall_mem_cons.2 ⟨hopen, h.opens⟩

/-- A marker that closes the region opened last. -/
theorem Splicing.close {line : Nat} {opener : Bracket} {placement : Placement}
    {opened : List (Bracket × Placement)} {forest : Forest} {marker : Member}
    (h : Splicing line ((opener, placement) :: opened) forest) (hmarker : marker.IsMark)
    (hline : line ≤ marker.startLine) (hpartner : marker.bracket = opener.partner) :
    Splicing marker.startLine opened (forest.place marker placement) := by
  obtain ⟨hsettles, hsettled⟩ := List.forall_mem_cons.1 h.settled
  obtain ⟨hopen, hopens⟩ := List.forall_mem_cons.1 h.opens
  refine h.place hmarker hline hsettles ?_ ?_ hsettled hopens
  · rw [Forest.openAt_cons, if_pos rfl, hpartner]
    have hopen' : (opener.under placement.path).boundary? = some .start := hopen
    exact Bracket.step_partner hopen' _
  · intro level hlevel
    rw [Forest.openAt_cons, if_neg hlevel]

/-! ## All markers -/

theorem lastMax?_mem {α : Type} {le : α → α → Bool} {l : List α} {a : α}
    (h : lastMax? le l = some a) : a ∈ l := by
  induction l generalizing a with
  | nil => cases h
  | cons first rest ih =>
    rw [lastMax?] at h
    split at h
    · cases h
      exact List.mem_cons_self
    · rename_i last hlast
      split at h
      · cases h
        exact List.mem_cons_of_mem _ (ih hlast)
      · cases h
        exact List.mem_cons_self

/-- The search for the last maximum looks at keys alone. -/
theorem lastMax?_map {α β : Type} {le : α → α → Bool} {le' : β → β → Bool} {f : α → β}
    (h : ∀ a b, le' (f a) (f b) = le a b) (l : List α) :
    lastMax? le' (l.map f) = (lastMax? le l).map f := by
  induction l with
  | nil => rfl
  | cons a rest ih =>
    rw [List.map_cons, lastMax?, ih, lastMax?]
    cases lastMax? le rest with
    | none => rfl
    | some b =>
      simp only [Option.map_some, h]
      split <;> rfl

/-- The container that a marker is located in is there. -/
theorem Forest.settles_locate (forest : Forest) (spans : List NamespaceSpan) (line : Nat) :
    forest.Settles (forest.locate spans line) := by
  rw [Forest.locate]
  split
  · rename_i entry hinnermost
    obtain ⟨member, hmember, rfl⟩ := List.mem_map.1 (lastMax?_mem hinnermost)
    obtain ⟨hforest, hcontainer⟩ := List.mem_filter.1 hmember
    have howner : member.isOwner member.entry.startLine member.entry.childPath = true := by
      rw [Bool.and_eq_true] at hcontainer
      simp [Member.isOwner, hcontainer.1, Member.startLine]
    have hhost : member ∈ forest.hosts :=
      List.mem_filter.2 ⟨hforest, bne_iff_ne.2 (Member.kind_ne_region_of_isOwner howner)⟩
    rw [Forest.Settles, Forest.slot, List.findIdx?_isSome, List.any_eq_true]
    exact ⟨member.entry, List.mem_map_of_mem hhost, howner⟩
  · trivial

theorem Forest.spliceWith_open {marker : Member} (h : marker.closesRegion = false)
    (spans : List NamespaceSpan) (stack : List Placement) (forest : Forest)
    (rest : List Member) :
    forest.spliceWith spans stack (marker :: rest)
      = (forest.place marker (forest.locate spans marker.startLine)).spliceWith spans
          (forest.locate spans marker.startLine :: stack) rest := by
  cases stack <;> simp [Forest.spliceWith, h]

theorem Forest.spliceWith_close {marker : Member} (h : marker.closesRegion = true)
    (spans : List NamespaceSpan) (placement : Placement) (outer : List Placement)
    (forest : Forest) (rest : List Member) :
    forest.spliceWith spans (placement :: outer) (marker :: rest)
      = (forest.place marker placement).spliceWith spans outer rest := by
  simp [Forest.spliceWith, h]

/-- A member closes a region if its bracket does. -/
theorem Member.closesRegion_eq (member : Member) :
    member.closesRegion = decide (member.bracket.boundary? = some .stop) := by
  rw [Member.closesRegion, Bracket.boundary?, Member.bracket]
  cases member.entry.region with
  | none => rfl
  | some marker => cases hboundary : marker.boundary <;> simp [hboundary]

/-- **All markers.** If they close what is open and each other, then no region is open
once the last one is in. -/
theorem Splicing.spliceWith (spans : List NamespaceSpan) {line : Nat}
    {opened : List (Bracket × Placement)} {forest : Forest} {markers : List Member}
    (h : Splicing line opened forest) (hcloses : Closes line (opened.map Prod.fst) markers) :
    ∃ line', Splicing line' [] (forest.spliceWith spans (opened.map Prod.snd) markers) := by
  generalize hstack : opened.map Prod.fst = stack at hcloses
  induction hcloses generalizing opened forest with
  | @done line =>
    have hopened : opened = [] := List.map_eq_nil_iff.1 hstack
    subst hopened
    exact ⟨line, h⟩
  | @mark line stack left marker rest hmark hline hstep hrest ih =>
    rcases Bracket.step_eq_some_iff.1 hstep with ⟨hopen, rfl⟩ | ⟨-, opener, rfl, hpartner⟩
    · have hside : marker.closesRegion = false := by
        rw [Member.closesRegion_eq, hopen]
        rfl
      have hplaced := h.open hmark hline (forest.settles_locate spans marker.startLine) hopen
      rw [Forest.spliceWith_open hside]
      exact ih hplaced (by rw [List.map_cons, hstack])
    · -- The region that is closed is the one opened last, and its placement is on top.
      obtain ⟨⟨_, placement⟩, opened, rfl, rfl, rfl⟩ := List.map_eq_cons_iff.1 hstack
      have hopen := (List.forall_mem_cons.1 h.opens).1
      have hside : marker.closesRegion = true := by
        rw [Member.closesRegion_eq, hpartner, Bracket.boundary?_partner hopen]
        rfl
      rw [List.map_cons, Forest.spliceWith_close hside]
      exact ih (h.close hmark hline hpartner) rfl

end SourceOutline
