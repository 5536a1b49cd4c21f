/-
Region markers as brackets. A list of entries is read with a stack: an opening
marker is pushed, and a closing one has to be the partner of the marker on top,
which means that it carries the same name, the same depth and the same ancestry.
`Bracket.follow` is that reading. It can be run, and it composes: a list read after
another starts with the stack the first one leaves.

That nothing fails and nothing stays on the stack is what the stages of an outline
keep. What a reader of an outline wants to know is said without a stack, and
follows from it: the boundaries are `Nested`, and each opening item is `Matched`
with exactly one item behind it, its partner (`exists_unique_match`).
-/
import Mathlib.Data.List.Infix
import SourceOutline.Outline.Basic

set_option autoImplicit false

namespace SourceOutline

/-! ## Reading with a stack -/

/-- What a region marker is told apart by. -/
structure Bracket where
  marker : Option Marker
  name : String
  parent : Ancestry
deriving DecidableEq

namespace Bracket

/-- Which side of a region it is. -/
def boundary? (bracket : Bracket) : Option Boundary :=
  bracket.marker.map Marker.boundary

/-- The closing bracket that goes with an opening one. -/
def partner (bracket : Bracket) : Bracket :=
  { bracket with marker := bracket.marker.map fun marker => { marker with boundary := .stop } }

/-- The stack of open brackets, the innermost first, after one more bracket. There is
none if that closes nothing or the wrong region. -/
def step (stack : List Bracket) (bracket : Bracket) : Option (List Bracket) :=
  if bracket.boundary? = some .start then some (bracket :: stack)
  else match stack with
    | [] => none
    | opener :: outer => if bracket = opener.partner then some outer else none

/-- The stack after a list of brackets. -/
def follow (stack word : List Bracket) : Option (List Bracket) :=
  word.foldlM step stack

/-- A bracket that can be read is pushed, or it is the partner of the one on top. -/
theorem step_eq_some_iff {stack left : List Bracket} {bracket : Bracket} :
    step stack bracket = some left ↔
      (bracket.boundary? = some .start ∧ left = bracket :: stack)
      ∨ bracket.boundary? ≠ some .start
        ∧ ∃ opener, stack = opener :: left ∧ bracket = opener.partner := by
  unfold step
  by_cases hopen : bracket.boundary? = some .start
  · simp [hopen, eq_comm]
  · cases stack with
    | nil => simp [hopen]
    | cons opener outer =>
      by_cases hpartner : bracket = opener.partner
      · rw [if_neg hopen]
        dsimp only
        rw [if_pos hpartner]
        constructor
        · intro h
          cases h
          exact .inr ⟨hopen, opener, rfl, hpartner⟩
        · rintro (⟨h, -⟩ | ⟨-, _, hstack, -⟩)
          · exact absurd h hopen
          · cases hstack
            rfl
      · simp [hopen, hpartner]

theorem boundary?_partner {bracket : Bracket} (h : bracket.boundary? = some .start) :
    bracket.partner.boundary? = some .stop := by
  obtain ⟨marker, hmarker, -⟩ := Option.map_eq_some_iff.1 h
  rw [boundary?, partner, hmarker]
  rfl

theorem step_open {bracket : Bracket} (h : bracket.boundary? = some .start)
    (stack : List Bracket) : step stack bracket = some (bracket :: stack) :=
  step_eq_some_iff.2 (.inl ⟨h, rfl⟩)

theorem step_partner {opener : Bracket} (h : opener.boundary? = some .start)
    (outer : List Bracket) : step (opener :: outer) opener.partner = some outer := by
  refine step_eq_some_iff.2 (.inr ⟨?_, opener, rfl, rfl⟩)
  rw [boundary?_partner h]
  decide

/-- What lies further down the stack is not looked at. -/
theorem step_frame {stack left : List Bracket} {bracket : Bracket}
    (h : step stack bracket = some left) (below : List Bracket) :
    step (stack ++ below) bracket = some (left ++ below) := by
  rcases step_eq_some_iff.1 h with ⟨hopen, rfl⟩ | ⟨hopen, opener, rfl, hpartner⟩
  · exact step_eq_some_iff.2 (.inl ⟨hopen, rfl⟩)
  · exact step_eq_some_iff.2 (.inr ⟨hopen, opener, rfl, hpartner⟩)

@[simp] theorem follow_nil (stack : List Bracket) : follow stack [] = some stack := rfl

theorem follow_cons (stack : List Bracket) (bracket : Bracket) (rest : List Bracket) :
    follow stack (bracket :: rest) = (step stack bracket).bind (follow · rest) := rfl

theorem follow_append (stack first second : List Bracket) :
    follow stack (first ++ second) = (follow stack first).bind (follow · second) :=
  List.foldlM_append

theorem follow_concat {stack word left : List Bracket} (h : follow stack word = some left)
    (bracket : Bracket) : follow stack (word ++ [bracket]) = step left bracket := by
  rw [follow_append, h, Option.bind_some, follow_cons]
  cases step left bracket <;> rfl

/-- **Frame.** A list that can be read on a stack can be read on any stack that has it
on top, and leaves what is below. -/
theorem follow_frame {stack word left : List Bracket} (h : follow stack word = some left)
    (below : List Bracket) : follow (stack ++ below) word = some (left ++ below) := by
  induction word generalizing stack with
  | nil =>
    cases h
    rfl
  | cons bracket word ih =>
    rw [follow_cons] at h ⊢
    obtain ⟨middle, hstep, hrest⟩ := Option.bind_eq_some_iff.1 h
    rw [step_frame hstep]
    exact ih hrest

/-- What can be read opens or closes a region. -/
theorem isSome_boundary?_of_follow {stack word left : List Bracket}
    (h : follow stack word = some left)
    (hstack : ∀ opener ∈ stack, opener.boundary? = some .start) :
    ∀ bracket ∈ word, bracket.boundary?.isSome = true := by
  induction word generalizing stack with
  | nil => exact List.forall_mem_nil _
  | cons bracket word ih =>
    rw [follow_cons] at h
    obtain ⟨middle, hstep, hrest⟩ := Option.bind_eq_some_iff.1 h
    rcases step_eq_some_iff.1 hstep with ⟨hopen, rfl⟩ | ⟨-, opener, rfl, rfl⟩
    · refine List.forall_mem_cons.2 ⟨by rw [hopen]; rfl, ih hrest ?_⟩
      exact List.forall_mem_cons.2 ⟨hopen, hstack⟩
    · obtain ⟨hopener, houter⟩ := List.forall_mem_cons.1 hstack
      refine List.forall_mem_cons.2 ⟨?_, ih hrest houter⟩
      rw [boundary?_partner hopener]
      rfl

end Bracket

/-! ## Nested boundaries -/

/-- A properly nested sequence: a region with what it holds, and then the next one. -/
inductive Nested : List Boundary → Prop where
  | nil : Nested []
  | region {inner rest : List Boundary} (hinner : Nested inner) (hrest : Nested rest) :
      Nested (.start :: inner ++ .stop :: rest)

/-- As many regions are closed as opened. -/
theorem Nested.count_eq {sides : List Boundary} (h : Nested sides) :
    sides.count .stop = sides.count .start := by
  induction h with
  | nil => rfl
  | region _ _ ihinner ihrest =>
    simp only [List.count_append, List.count_cons, ihinner, ihrest]
    simp only [beq_self_eq_true, if_true]
    rw [if_neg (by decide), if_neg (by decide)]
    omega

theorem prefix_append_cases {α : Type} {start first second : List α}
    (h : start <+: first ++ second) :
    start <+: first ∨ ∃ more, start = first ++ more ∧ more <+: second := by
  rcases List.prefix_or_prefix_of_prefix h (List.prefix_append first second) with hin | hout
  · exact .inl hin
  · obtain ⟨more, rfl⟩ := hout
    exact .inr ⟨more, rfl, (List.prefix_append_right_inj first).1 h⟩

/-- Nowhere along the way are more regions closed than opened. -/
theorem Nested.count_le_of_prefix {sides : List Boundary} (h : Nested sides) :
    ∀ {start : List Boundary}, start <+: sides → start.count .stop ≤ start.count .start := by
  induction h with
  | nil =>
    intro start hstart
    rw [List.prefix_nil.1 hstart]
    simp
  | @region inner rest hinner hrest ihinner ihrest =>
    intro start hstart
    rw [List.cons_append] at hstart
    rcases List.prefix_cons_iff.1 hstart with rfl | ⟨tail, rfl, htail⟩
    · simp
    · -- The beginning ends inside the region, right before its end, or behind it.
      have hcount := hinner.count_eq
      rcases prefix_append_cases htail with hin | ⟨more, rfl, hmore⟩
      · have := ihinner hin
        simp only [List.count_cons, beq_self_eq_true, if_true]
        rw [if_neg (by decide)]
        omega
      · rcases List.prefix_cons_iff.1 hmore with rfl | ⟨last, rfl, hlast⟩
        · simp only [List.append_nil, List.count_cons, beq_self_eq_true, if_true]
          rw [if_neg (by decide)]
          omega
        · have := ihrest hlast
          simp only [List.count_append, List.count_cons, beq_self_eq_true, if_true]
          rw [if_neg (by decide), if_neg (by decide)]
          omega

/-! ## From the stack to the nesting -/

/-- The sides of brackets in their order. -/
def sides (word : List Bracket) : List Boundary :=
  word.filterMap Bracket.boundary?

/-- What is read from an open region to an empty stack begins with the content of that
region, which is nested, and its partner. -/
theorem follow_open_split (opener : Bracket) (outer word : List Bracket)
    (h : Bracket.follow (opener :: outer) word = some []) :
    ∃ inner rest, word = inner ++ opener.partner :: rest ∧ Nested (sides inner)
      ∧ Bracket.follow outer rest = some [] := by
  -- The content may hold whole regions of its own, so the induction is on the length.
  induction hlength : word.length using Nat.strongRecOn generalizing opener outer word with
  | ind length ih =>
    cases word with
    | nil => cases h
    | cons bracket word =>
      rw [Bracket.follow_cons] at h
      obtain ⟨stack, hstep, hrest⟩ := Option.bind_eq_some_iff.1 h
      rw [List.length_cons] at hlength
      rcases Bracket.step_eq_some_iff.1 hstep with ⟨hopen, rfl⟩ | ⟨_, _, hstack, hpartner⟩
      · obtain ⟨inner, rest, rfl, hinner, hfollow⟩ :=
          ih word.length (by omega) bracket (opener :: outer) word hrest rfl
        rw [List.length_append, List.length_cons] at hlength
        obtain ⟨inner', rest', rfl, hinner', hfollow'⟩ :=
          ih rest.length (by omega) opener outer rest hfollow rfl
        refine ⟨bracket :: inner ++ bracket.partner :: inner', rest', by simp, ?_, hfollow'⟩
        have hsides : sides (bracket :: inner ++ bracket.partner :: inner')
            = .start :: sides inner ++ .stop :: sides inner' := by
          simp [sides, hopen, Bracket.boundary?_partner hopen]
        rw [hsides]
        exact .region hinner hinner'
      · cases hstack
        exact ⟨[], word, by rw [hpartner]; rfl, .nil, hrest⟩

/-- Brackets that are read from the empty stack to the empty stack are nested. -/
theorem nested_of_follow (word : List Bracket) (h : Bracket.follow [] word = some []) :
    Nested (sides word) := by
  induction hlength : word.length using Nat.strongRecOn generalizing word with
  | ind length ih =>
    cases word with
    | nil => exact .nil
    | cons bracket word =>
      rw [Bracket.follow_cons] at h
      obtain ⟨stack, hstep, hrest⟩ := Option.bind_eq_some_iff.1 h
      rcases Bracket.step_eq_some_iff.1 hstep with ⟨hopen, rfl⟩ | ⟨_, _, hstack, _⟩
      · obtain ⟨inner, rest, rfl, hinner, hfollow⟩ := follow_open_split bracket [] word hrest
        rw [List.length_cons, List.length_append, List.length_cons] at hlength
        have hsides : sides (bracket :: (inner ++ bracket.partner :: rest))
            = .start :: sides inner ++ .stop :: sides rest := by
          simp [sides, hopen, Bracket.boundary?_partner hopen]
        rw [hsides]
        exact .region hinner (ih rest.length (by omega) rest hfollow rfl)
      · cases hstack

/-! ## Matching positions -/

/-- The side of a region that a row of an outline is, if it is a marker. -/
def Item.boundary? (item : Item) : Option Boundary :=
  if item.kind = .region then item.region.map Marker.boundary else none

/-- The rows at two positions belong together: one opens a region, a later one closes
it, and what lies between them is nested. `rows` tells for each row which side it
is, and nothing for a row that is no marker. -/
structure Matched (rows : List (Option Boundary)) (i j : Nat) : Prop where
  lt : i < j
  opens : rows[i]? = some (some .start)
  closes : rows[j]? = some (some .stop)
  between : Nested (((rows.take j).drop (i + 1)).filterMap id)

/-- A row that opens a region is matched with one row at most: what lies between it and
a later candidate would close a region that it does not open. -/
theorem Matched.unique {rows : List (Option Boundary)} {i j k : Nat} (hj : Matched rows i j)
    (hk : Matched rows i k) : j = k := by
  have hearlier : ∀ {j k : Nat}, Matched rows i j → Matched rows i k → ¬j < k := by
    intro j k hj hk hlt
    -- Row `j` would then lie in the stretch that `k` calls nested, closing one too many.
    have hrow : rows[j]? = some (some .stop) := hj.closes
    obtain ⟨hj', hget⟩ := List.getElem?_eq_some_iff.1 hrow
    have hi := hj.lt
    have hprefix : ((rows.take j).drop (i + 1)).filterMap id ++ [.stop]
        <+: ((rows.take k).drop (i + 1)).filterMap id := by
      have htake : rows.take j ++ [some .stop] <+: rows.take k := by
        rw [← hget, List.take_append_getElem hj']
        exact List.take_prefix_take_left (by omega)
      have hdrop := htake.drop (i + 1)
      rw [List.drop_append_of_le_length (by rw [List.length_take]; omega)] at hdrop
      have hfilter := hdrop.filterMap id
      rwa [List.filterMap_append] at hfilter
    have hle := hk.between.count_le_of_prefix hprefix
    have heq := hj.between.count_eq
    rw [List.count_append, List.count_append, heq] at hle
    revert hle
    simp
  have hjk := hearlier hj hk
  have hkj := hearlier hk hj
  omega

/-- The bracket that an entry is, if it is a marker. -/
def Entry.bracket? (entry : Entry) : Option Bracket :=
  if entry.kind = .region then some ⟨entry.region, entry.name, entry.parent⟩ else none

theorem Entry.bracket?_eq_some_iff {entry : Entry} {bracket : Bracket} :
    entry.bracket? = some bracket
      ↔ entry.kind = .region ∧ bracket = ⟨entry.region, entry.name, entry.parent⟩ := by
  rw [Entry.bracket?]
  split
  · rename_i h
    rw [Option.some.injEq, eq_comm]
    exact ⟨fun heq => ⟨h, heq⟩, fun heq => heq.2⟩
  · rename_i h
    simp [h]

/-- The brackets among entries. -/
def brackets (entries : List Entry) : List Bracket :=
  entries.filterMap Entry.bracket?

theorem brackets_append (first second : List Entry) :
    brackets (first ++ second) = brackets first ++ brackets second :=
  List.filterMap_append

theorem Entry.boundary?_item (entry : Entry) :
    entry.item.boundary? = entry.bracket?.bind Bracket.boundary? := by
  rw [Item.boundary?, Entry.bracket?]
  by_cases h : entry.kind = .region
  · rw [if_pos h, if_pos (show entry.item.kind = .region from h)]
    rfl
  · rw [if_neg h, if_neg (show entry.item.kind ≠ .region from h)]
    rfl

theorem filterMap_boundary?_item (entries : List Entry) :
    (entries.map Entry.item).filterMap Item.boundary? = sides (brackets entries) := by
  rw [sides, brackets, List.filterMap_map, List.filterMap_filterMap]
  congr 1
  funext entry
  exact entry.boundary?_item

theorem exists_append_of_getElem? {α : Type} {l : List α} {i : Nat} {a : α} (h : l[i]? = some a) :
    ∃ before after, l = before ++ a :: after ∧ i = before.length := by
  obtain ⟨hlt, rfl⟩ := List.getElem?_eq_some_iff.1 h
  refine ⟨l.take i, l.drop (i + 1), ?_, ?_⟩
  · rw [← List.drop_eq_getElem_cons hlt, List.take_append_drop]
  · rw [List.length_take]
    omega

/-- Rows that stand apart with a nested stretch between them are matched. -/
theorem matched_append (before after : List (Option Boundary)) {between : List (Option Boundary)}
    (h : Nested (between.filterMap id)) :
    Matched (before ++ some .start :: (between ++ some .stop :: after)) before.length
      (before.length + 1 + between.length) where
  lt := by omega
  opens := by
    rw [List.getElem?_append_right (Nat.le_refl _), Nat.sub_self]
    rfl
  closes := by
    rw [List.getElem?_append_right (by omega),
      show before.length + 1 + between.length - before.length = between.length + 1 by omega,
      List.getElem?_cons_succ, List.getElem?_append_right (Nat.le_refl _), Nat.sub_self]
    rfl
  between := by
    have hrows : before ++ some .start :: (between ++ some .stop :: after)
        = (before ++ [some .start]) ++ between ++ some .stop :: after := by simp
    have hlength : before.length + 1 + between.length
        = ((before ++ [some Boundary.start]) ++ between).length := by
      simp only [List.length_append, List.length_singleton]
    have hstart : before.length + 1 = (before ++ [some Boundary.start]).length := by
      rw [List.length_append, List.length_singleton]
    rw [hlength, hrows, List.take_left, hstart, List.drop_left]
    exact h

/-- **Each opening row has one matching row**, and that is its partner. -/
theorem exists_unique_match {entries : List Entry}
    (h : Bracket.follow [] (brackets entries) = some []) {i : Nat} {opening : Entry}
    {bracket : Bracket} (hi : entries[i]? = some opening)
    (hopening : opening.bracket? = some bracket) (hopen : bracket.boundary? = some .start) :
    ∃ (j : Nat) (closing : Entry), entries[j]? = some closing
      ∧ closing.bracket? = some bracket.partner
      ∧ Matched ((entries.map Entry.item).map Item.boundary?) i j
      ∧ ∀ k, Matched ((entries.map Entry.item).map Item.boundary?) i k → k = j := by
  obtain ⟨before, after, rfl, rfl⟩ := exists_append_of_getElem? hi
  -- Once the row is read it lies on top of the stack.
  rw [brackets_append, Bracket.follow_append] at h
  obtain ⟨outer, -, houter⟩ := Option.bind_eq_some_iff.1 h
  rw [brackets, List.filterMap_cons_some hopening, Bracket.follow_cons,
    Bracket.step_open hopen] at houter
  obtain ⟨inner, rest, hword, hinner, -⟩ := follow_open_split bracket outer _ houter
  obtain ⟨between, tail, rfl, hbetween, htail⟩ := List.filterMap_eq_append_iff.1 hword
  obtain ⟨plain, closing, last, rfl, hplain, hclosing, -⟩ := List.filterMap_eq_cons_iff.1 htail
  have hmiddle : brackets (between ++ plain) = inner := by
    rw [brackets_append, brackets, hbetween, brackets, List.filterMap_eq_nil_iff.2 hplain,
      List.append_nil]
  have hrows : ((before ++ opening :: (between ++ (plain ++ closing :: last))).map Entry.item).map
        Item.boundary?
      = (before.map Entry.item).map Item.boundary? ++ some .start
        :: (((between ++ plain).map Entry.item).map Item.boundary?
          ++ some .stop :: (last.map Entry.item).map Item.boundary?) := by
    simp [Entry.boundary?_item, hopening, hopen, hclosing, Bracket.boundary?_partner hopen]
  have hnested : Nested ((((between ++ plain).map Entry.item).map Item.boundary?).filterMap id) := by
    rw [List.filterMap_map, Function.id_comp, filterMap_boundary?_item, hmiddle]
    exact hinner
  have hmatch := matched_append ((before.map Entry.item).map Item.boundary?)
    ((last.map Entry.item).map Item.boundary?) hnested
  rw [← hrows] at hmatch
  simp only [List.length_map] at hmatch
  refine ⟨_, closing, ?_, hclosing, hmatch, fun k hk => hk.unique hmatch⟩
  rw [List.getElem?_append_right (by omega),
    show before.length + 1 + (between ++ plain).length - before.length
      = (between ++ plain).length + 1 by omega,
    List.getElem?_cons_succ, ← List.append_assoc, List.getElem?_append_right (Nat.le_refl _),
    Nat.sub_self]
  rfl

end SourceOutline
