/-
Blocks by indentation.

The scan keeps the open blocks on a stack and closes some of them on each line. Which block
a line lies in, and where a block ends, can be said without the stack, by looking at the
indentations of the lines in between (`Surrounds`, `EndsAt`).

A block is open in front of a line if all lines since its first one are indented more than
that (`OpenBefore`). The blocks on the stack are those, from the last one to the first, and
their indentations go down with their lines (`Stacked`). The line that is read takes off the
blocks that are indented no less, and as the stack goes down these are the ones on top. What
is left surrounds the line, and the one on top is its parent (`Stacked.parent_of_head`).
-/
import Mathlib.Data.List.TakeWhile
import SourceOutline.Proofs.LineScan
import SourceOutline.Proofs.Scan
import SourceOutline.Python

set_option autoImplicit false

namespace SourceOutline

/-! ## Dotted names -/

theorem Text.join_splitAt (mark : Char) (cs : List Char) :
    Text.join [mark] (Text.splitAt (· == mark) cs) = cs := by
  induction cs with
  | nil => rfl
  | cons c cs ih =>
    have hne := Text.splitAt_ne_nil (· == mark) cs
    rw [Text.splitAt]
    split
    · rename_i hmark
      obtain ⟨piece, pieces, hpieces⟩ := List.exists_cons_of_ne_nil hne
      rw [hpieces] at ih ⊢
      rw [Text.join, ih, eq_of_beq hmark]
      · rfl
      · intro h
        cases h
    · split
      · rename_i hnil
        exact absurd hnil hne
      · rename_i piece pieces hpieces
        rw [hpieces] at ih
        cases pieces with
        | nil => exact congrArg (c :: ·) ih
        | cons second pieces => exact congrArg (c :: ·) ih

theorem joinTexts_cons_cons (separator text next : String) (rest : List String) :
    joinTexts separator (text :: next :: rest)
      = text ++ separator ++ joinTexts separator (next :: rest) := rfl

theorem joinTexts_map_ofList (mark : Char) (pieces : List (List Char)) :
    joinTexts (String.ofList [mark]) (pieces.map String.ofList)
      = String.ofList (Text.join [mark] pieces) := by
  induction pieces with
  | nil => rfl
  | cons piece rest ih =>
    cases rest with
    | nil => rfl
    | cons second rest =>
      have hjoin : Text.join [mark] (piece :: second :: rest)
          = piece ++ [mark] ++ Text.join [mark] (second :: rest) := rfl
      rw [List.map_cons, List.map_cons, joinTexts_cons_cons, ← List.map_cons, ih, hjoin,
        String.ofList_append, String.ofList_append]

/-- A name that was taken apart at its full stops. -/
theorem LineScan.joinTexts_segmentsOf (name : String) :
    joinTexts "." (LineScan.segmentsOf name) = name := by
  rw [LineScan.segmentsOf, show "." = String.ofList ['.'] from rfl, joinTexts_map_ofList,
    Text.join_splitAt, String.ofList_toList]

theorem joinTexts_append (separator : String) {first second : List String} (hfirst : first ≠ [])
    (hsecond : second ≠ []) :
    joinTexts separator (first ++ second)
      = joinTexts separator first ++ separator ++ joinTexts separator second := by
  induction first with
  | nil => exact absurd rfl hfirst
  | cons text rest ih =>
    cases rest with
    | nil =>
      obtain ⟨next, others, rfl⟩ := List.exists_cons_of_ne_nil hsecond
      rfl
    | cons next rest =>
      have hrest := ih (List.cons_ne_nil next rest)
      rw [List.cons_append] at hrest
      rw [List.cons_append, List.cons_append, joinTexts_cons_cons, hrest, joinTexts_cons_cons]
      simp only [String.append_assoc]

namespace LineScan

variable {σ : Type}

/-! ## The lines of a text -/

/-- A line that is not blank, as the scan takes it. -/
structure Row where
  indent : Nat
  kind : LineKind
deriving DecidableEq

/-- The lines of a text, with nothing for a blank one. What a line amounts to may depend on
those before that are not blank. -/
def Classifier.rows (classifier : Classifier σ) (memory : σ) :
    List (List Char) → List (Option Row)
  | [] => []
  | line :: rest =>
    if Text.isBlankLine line then none :: classifier.rows memory rest
    else
      some ⟨Text.indent line, (classifier.step memory line).1⟩
        :: classifier.rows (classifier.step memory line).2 rest

/-- The name that a line gives to its block. -/
def LineKind.blockName? : LineKind → Option String
  | .declaration declared => if declared.kind.isContainer then some declared.name else none
  | .scope name => some name
  | .plain => none
  | .skip => none

/-- A line that declares something. -/
structure DeclarationLine where
  line : Nat
  column : Nat
  declaration : Declaration

/-- What a numbered line declares. -/
def declarationOf? (row : Nat × Option Row) : Option DeclarationLine :=
  match row.2 with
  | some ⟨indent, .declaration declaration⟩ => some ⟨row.1, indent, declaration⟩
  | _ => none

/-- The lines that declare something. -/
def declarationLines (rows : List (Option Row)) : List DeclarationLine :=
  (Text.numbered 0 rows).filterMap declarationOf?

section Rows

variable (rows : List (Option Row))

/-- A line is not blank, and this is what it amounts to. -/
def RowAt (line : Nat) (row : Row) : Prop := rows[line]? = some (some row)

/-- Every line between two others that is not blank is indented more than that. -/
def Deeper (indent line stop : Nat) : Prop :=
  ∀ between row, line < between → between < stop → RowAt rows between row → indent < row.indent

/-- The block of a line is open in front of another one. The line is neither blank nor skipped,
and all that follow it are indented more. -/
structure OpenBefore (line stop : Nat) : Prop where
  lt : line < stop
  deeper : ∃ row, RowAt rows line row ∧ row.kind ≠ .skip ∧ Deeper rows row.indent line stop

/-- A line lies in the block of an earlier one, which it does not close. -/
structure Surrounds (outer line : Nat) : Prop where
  lt : outer < line
  stays : OpenBefore rows outer (line + 1)

/-- The innermost block a line lies in is that of the latest line. -/
structure Parent (parent line : Nat) : Prop where
  surrounds : Surrounds rows parent line
  latest : ∀ other, Surrounds rows other line → other ≤ parent

/-- A name that a line declares, with that of the block around it in front. -/
inductive QualifiedAs : Nat → String → String → Prop where
  | top {line : Nat} {name : String} (hnone : ∀ outer, ¬Surrounds rows outer line) :
      QualifiedAs line name name
  | anonymous {line parent : Nat} {row : Row} {name : String} (hparent : Parent rows parent line)
      (hrow : RowAt rows parent row) (hname : row.kind.blockName? = none) :
      QualifiedAs line name name
  | under {line parent : Nat} {row : Row} {name outer scope : String}
      (hparent : Parent rows parent line) (hrow : RowAt rows parent row)
      (hname : row.kind.blockName? = some outer) (hscope : QualifiedAs parent outer scope) :
      QualifiedAs line name (scope ++ "." ++ name)

/-- The last line before another one that is not blank. -/
structure LastContent (stop last : Nat) : Prop where
  lt : last < stop
  content : ∃ row, RowAt rows last row
  blank : ∀ between row, last < between → between < stop → ¬RowAt rows between row

/-- The first later line that is not blank and indented no more, or the end of the text. -/
structure StopsAt (line stop : Nat) : Prop where
  lt : line < stop
  row : ∃ row, RowAt rows line row ∧ Deeper rows row.indent line stop
    ∧ (stop = rows.length ∨ ∃ next, RowAt rows stop next ∧ next.indent ≤ row.indent)

/-- The last line of the block of a line. -/
def EndsAt (line last : Nat) : Prop := ∃ stop, StopsAt rows line stop ∧ LastContent rows stop last

end Rows

variable {rows : List (Option Row)}

theorem RowAt.unique {line : Nat} {row other : Row} (h : RowAt rows line row)
    (h' : RowAt rows line other) : row = other :=
  Option.some.inj (Option.some.inj (h.symm.trans h'))

theorem RowAt.lt_length {line : Nat} {row : Row} (h : RowAt rows line row) : line < rows.length :=
  (List.getElem?_eq_some_iff.1 h).1

theorem StopsAt.le {line stop stop' : Nat} (h : StopsAt rows line stop)
    (h' : StopsAt rows line stop') : stop' ≤ stop := by
  obtain ⟨hlt, row, hrow, -, hstop⟩ := h
  obtain ⟨-, row', hrow', hdeeper, hstop'⟩ := h'
  cases hrow.unique hrow'
  -- A later stop would have the earlier one among the lines it calls deeper.
  rcases hstop with rfl | ⟨next, hnext, hindent⟩
  · rcases hstop' with rfl | ⟨next, hnext, -⟩
    · exact Nat.le_refl _
    · exact Nat.le_of_lt hnext.lt_length
  · by_contra hbefore
    have := hdeeper stop next hlt (by omega) hnext
    omega

theorem LastContent.le {stop last last' : Nat} (h : LastContent rows stop last)
    (h' : LastContent rows stop last') : last' ≤ last := by
  by_contra hbefore
  obtain ⟨row, hrow⟩ := h'.content
  exact h.blank last' row (by omega) h'.lt hrow

/-- A block has one last line. -/
theorem EndsAt.unique {line last last' : Nat} (h : EndsAt rows line last)
    (h' : EndsAt rows line last') : last = last' := by
  obtain ⟨stop, hstop, hlast⟩ := h
  obtain ⟨stop', hstop', hlast'⟩ := h'
  cases Nat.le_antisymm (hstop'.le hstop) (hstop.le hstop')
  exact Nat.le_antisymm (hlast'.le hlast) (hlast.le hlast')

/-- A name is qualified in one way. -/
theorem QualifiedAs.unique {line : Nat} {name qualified qualified' : String}
    (h : QualifiedAs rows line name qualified) (h' : QualifiedAs rows line name qualified') :
    qualified = qualified' := by
  have hsame : ∀ {line parent parent' : Nat} {row row' : Row}, Parent rows parent line →
      Parent rows parent' line → RowAt rows parent row → RowAt rows parent' row' →
      parent = parent' ∧ row = row' := by
    intro line parent parent' row row' hparent hparent' hrow hrow'
    cases Nat.le_antisymm (hparent'.latest _ hparent.surrounds) (hparent.latest _ hparent'.surrounds)
    exact ⟨rfl, hrow.unique hrow'⟩
  induction h generalizing qualified' with
  | top hnone =>
    cases h' with
    | top => rfl
    | anonymous hparent _ _ => exact absurd hparent.surrounds (hnone _)
    | under hparent _ _ _ => exact absurd hparent.surrounds (hnone _)
  | anonymous hparent hrow hname =>
    cases h' with
    | top hnone => exact absurd hparent.surrounds (hnone _)
    | anonymous => rfl
    | under hparent' hrow' hname' _ =>
      obtain ⟨rfl, rfl⟩ := hsame hparent hparent' hrow hrow'
      rw [hname] at hname'
      cases hname'
  | under hparent hrow hname _ ih =>
    cases h' with
    | top hnone => exact absurd hparent.surrounds (hnone _)
    | anonymous hparent' hrow' hname' =>
      obtain ⟨rfl, rfl⟩ := hsame hparent hparent' hrow hrow'
      rw [hname] at hname'
      cases hname'
    | under hparent' hrow' hname' hscope' =>
      obtain ⟨rfl, rfl⟩ := hsame hparent hparent' hrow hrow'
      cases hname.symm.trans hname'
      rw [ih hscope']

/-! ## From one line to the next -/

theorem Deeper.succ {indent line stop : Nat} (h : Deeper rows indent line stop)
    (hnext : ∀ row, RowAt rows stop row → indent < row.indent) :
    Deeper rows indent line (stop + 1) := by
  intro between row hline hstop hrow
  by_cases hlast : between = stop
  · subst hlast
    exact hnext row hrow
  · exact h between row hline (by omega) hrow

theorem Deeper.of_succ {indent line stop : Nat} (h : Deeper rows indent line (stop + 1)) :
    Deeper rows indent line stop := fun between row hline hstop hrow =>
  h between row hline (by omega) hrow

theorem Surrounds.openBefore {outer line : Nat} (h : Surrounds rows outer line) :
    OpenBefore rows outer line := by
  obtain ⟨hlt, -, row, hrow, hkind, hdeeper⟩ := h
  exact ⟨hlt, row, hrow, hkind, hdeeper.of_succ⟩

/-- The line itself opens a block, or it does not. -/
theorem openBefore_succ_iff {line p : Nat} :
    OpenBefore rows p (line + 1)
      ↔ Surrounds rows p line ∨ p = line ∧ ∃ row, RowAt rows line row ∧ row.kind ≠ .skip := by
  constructor
  · intro h
    by_cases hlast : p = line
    · subst hlast
      obtain ⟨-, row, hrow, hkind, -⟩ := h
      exact .inr ⟨rfl, row, hrow, hkind⟩
    · have hlt := h.lt
      exact .inl ⟨by omega, h⟩
  · rintro (h | ⟨rfl, row, hrow, hkind⟩)
    · exact h.stays
    · refine ⟨Nat.lt_succ_self p, row, hrow, hkind, ?_⟩
      intro between row hline hstop
      omega

/-- A blank line changes nothing. -/
theorem openBefore_blank_iff {line p : Nat} (hblank : ∀ row, ¬RowAt rows line row) :
    OpenBefore rows p (line + 1) ↔ OpenBefore rows p line := by
  rw [openBefore_succ_iff]
  constructor
  · rintro (h | ⟨-, row, hrow, -⟩)
    · exact h.openBefore
    · exact absurd hrow (hblank row)
  · rintro ⟨hlt, row, hrow, hkind, hdeeper⟩
    have hstays := hdeeper.succ fun other hother => absurd hother (hblank other)
    exact .inl ⟨hlt, Nat.lt_succ_of_lt hlt, row, hrow, hkind, hstays⟩

/-! ## The stack -/

/-- The segments are those of the name a line declares, with its qualifiers. -/
structure Names (rows : List (Option Row)) (line : Nat) (name : String)
    (segments : QualifiedName) : Prop where
  ne_nil : segments ≠ []
  qualified : QualifiedAs rows line name (joinTexts "." segments)

/-- An open block as its first line gives it. -/
structure OpenBlock.Stands (rows : List (Option Row)) (block : OpenBlock) (row : Row) : Prop where
  there : RowAt rows block.first row
  opens : row.kind ≠ .skip
  indent : row.indent = block.indent
  scope : Option.Rel (Names rows block.first) row.kind.blockName? block.scope

/-- A stack of the blocks that are open, the last one on top. -/
structure Stacked (rows : List (Option Row)) (isOpen : Nat → Prop) (opened : List OpenBlock) :
    Prop where
  descending : opened.Pairwise fun inner outer =>
    outer.first < inner.first ∧ outer.indent < inner.indent
  stands : ∀ block ∈ opened, ∃ row, block.Stands rows row
  opens : ∀ line, isOpen line ↔ ∃ block ∈ opened, block.first = line

theorem Stacked.congr {isOpen isOpen' : Nat → Prop} {opened : List OpenBlock}
    (h : Stacked rows isOpen opened) (hiff : ∀ line, isOpen' line ↔ isOpen line) :
    Stacked rows isOpen' opened :=
  ⟨h.descending, h.stands, fun line => (hiff line).trans (h.opens line)⟩

/-- The blocks that a line does not close are those that are indented less. -/
theorem mem_dropWhile_iff {opened : List OpenBlock} {indent : Nat}
    (h : opened.Pairwise fun inner outer => outer.indent < inner.indent) {block : OpenBlock} :
    block ∈ opened.dropWhile (fun block => indent ≤ block.indent)
      ↔ block ∈ opened ∧ block.indent < indent := by
  induction opened with
  | nil => simp
  | cons first rest ih =>
    obtain ⟨hfirst, hrest⟩ := List.pairwise_cons.1 h
    by_cases hclosed : indent ≤ first.indent
    · rw [List.dropWhile_cons_of_pos (by simpa using hclosed), ih hrest, List.mem_cons]
      constructor
      · rintro ⟨hmem, hless⟩
        exact ⟨.inr hmem, hless⟩
      · rintro ⟨rfl | hmem, hless⟩
        · omega
        · exact ⟨hmem, hless⟩
    · rw [List.dropWhile_cons_of_neg (by simpa using hclosed)]
      constructor
      · intro hmem
        refine ⟨hmem, ?_⟩
        rcases List.mem_cons.1 hmem with rfl | hmem
        · omega
        · have := hfirst block hmem
          omega
      · exact fun hmem => hmem.1

/-- **A line closes the blocks that do not surround it.** -/
theorem Stacked.closeFrom {line : Nat} {row : Row} {opened : List OpenBlock}
    (h : Stacked rows (OpenBefore rows · line) opened) (hrow : RowAt rows line row) :
    Stacked rows (Surrounds rows · line)
      (opened.dropWhile fun block => row.indent ≤ block.indent) := by
  have hsublist := List.dropWhile_sublist (l := opened) fun block => decide (row.indent ≤ block.indent)
  have hmem : ∀ block, block ∈ opened.dropWhile (fun block => row.indent ≤ block.indent)
      ↔ block ∈ opened ∧ block.indent < row.indent := fun block =>
    mem_dropWhile_iff (h.descending.imp And.right)
  refine ⟨h.descending.sublist hsublist, fun block hblock => h.stands block (hsublist.subset hblock),
    fun p => ?_⟩
  constructor
  · -- What surrounds the line is indented less, so its block is not taken off.
    intro hsurrounds
    obtain ⟨block, hblock, rfl⟩ := (h.opens p).1 hsurrounds.openBefore
    obtain ⟨first, hstands⟩ := h.stands block hblock
    obtain ⟨hlt, -, first', hfirst, -, hdeeper⟩ := hsurrounds
    cases hfirst.unique hstands.there
    have hless := hdeeper line row hlt (Nat.lt_succ_self line) hrow
    rw [hstands.indent] at hless
    exact ⟨block, (hmem block).2 ⟨hblock, hless⟩, rfl⟩
  · -- A block that stays was open in front of the line, and the line does not end it.
    rintro ⟨block, hblock, rfl⟩
    obtain ⟨hopened, hless⟩ := (hmem block).1 hblock
    obtain ⟨first, hstands⟩ := h.stands block hopened
    obtain ⟨hlt, first', hfirst, hkind, hdeeper⟩ := (h.opens block.first).2 ⟨block, hopened, rfl⟩
    cases hfirst.unique hstands.there
    refine ⟨hlt, Nat.lt_succ_of_lt hlt, first, hfirst, hkind, hdeeper.succ fun other hother => ?_⟩
    cases hother.unique hrow
    rw [hstands.indent]
    exact hless

/-- **A line opens a block inside of those that surround it.** -/
theorem Stacked.push {line : Nat} {row : Row} {opened : List OpenBlock} {block : OpenBlock}
    (h : Stacked rows (Surrounds rows · line) opened) (hblock : block.Stands rows row)
    (hfirst : block.first = line) :
    Stacked rows (OpenBefore rows · (line + 1)) (block :: opened) := by
  refine ⟨List.pairwise_cons.2 ⟨fun outer houter => ?_, h.descending⟩,
    List.forall_mem_cons.2 ⟨⟨row, hblock⟩, h.stands⟩, fun p => ?_⟩
  · -- The line is indented more than the blocks around it, and that is why the stack goes down.
    obtain ⟨first, hstands⟩ := h.stands outer houter
    obtain ⟨hlt, -, first', hrow, -, hdeeper⟩ := (h.opens outer.first).2 ⟨outer, houter, rfl⟩
    cases hrow.unique hstands.there
    have hless := hdeeper line row hlt (Nat.lt_succ_self line) (hfirst ▸ hblock.there)
    rw [hstands.indent, hblock.indent] at hless
    exact ⟨hfirst ▸ hlt, hless⟩
  · rw [openBefore_succ_iff, h.opens, List.exists_mem_cons_iff, or_comm]
    constructor
    · rintro (⟨rfl, -⟩ | hold)
      · exact .inl hfirst
      · exact .inr hold
    · rintro (rfl | hold)
      · exact .inl ⟨hfirst, row, hfirst ▸ hblock.there, hblock.opens⟩
      · exact .inr hold

/-- The block on top is that of the parent. -/
theorem Stacked.parent_of_head {line : Nat} {block : OpenBlock} {opened : List OpenBlock}
    (h : Stacked rows (Surrounds rows · line) (block :: opened)) :
    Parent rows block.first line := by
  refine ⟨(h.opens block.first).2 ⟨block, List.mem_cons_self, rfl⟩, fun other hother => ?_⟩
  obtain ⟨outer, houter, rfl⟩ := (h.opens other).1 hother
  rcases List.mem_cons.1 houter with rfl | houter
  · exact Nat.le_refl _
  · exact Nat.le_of_lt ((List.pairwise_cons.1 h.descending).1 outer houter).1

/-- **The scope is the qualifier.** -/
theorem Stacked.names {line : Nat} {state : State σ}
    (h : Stacked rows (Surrounds rows · line) state.opened) (name : String) :
    Names rows line name (state.scope ++ segmentsOf name) := by
  have hne : ∀ scope : QualifiedName, scope ++ segmentsOf name ≠ [] := by
    simp [segmentsOf_ne_nil]
  refine ⟨hne _, ?_⟩
  -- With no qualifier in front, the segments make up the name again.
  have halone : QualifiedAs rows line name name →
      QualifiedAs rows line name (joinTexts "." (segmentsOf name)) := by
    rw [joinTexts_segmentsOf]
    exact id
  unfold State.scope
  cases hopened : state.opened with
  | nil =>
    rw [hopened] at h
    have hnone : ∀ outer, ¬Surrounds rows outer line := by
      intro outer houter
      obtain ⟨block, hblock, -⟩ := (h.opens outer).1 houter
      cases hblock
    exact halone (.top hnone)
  | cons block outer =>
    rw [hopened] at h
    have hparent := h.parent_of_head
    obtain ⟨row, hstands⟩ := h.stands block List.mem_cons_self
    obtain ⟨hrow, -, -, hscope⟩ := hstands
    change QualifiedAs rows line name (joinTexts "." (block.scope.getD [] ++ segmentsOf name))
    generalize hname : row.kind.blockName? = blockName at hscope
    generalize block.scope = scope at hscope
    cases hscope with
    | none =>
      exact halone (.anonymous hparent hrow hname)
    | some hnames =>
      rename_i outerName segments
      have hunder : QualifiedAs rows line name _ := .under hparent hrow hname hnames.qualified
      rw [Option.getD_some, joinTexts_append _ hnames.ne_nil (segmentsOf_ne_nil name),
        joinTexts_segmentsOf]
      exact hunder

/-! ## The scan -/

/-- A declaration that was found on a line. -/
structure FoundOn (rows : List (Option Row)) (declared : DeclarationLine) (found : Found) :
    Prop where
  there : RowAt rows declared.line ⟨declared.column, .declaration declared.declaration⟩
  line : found.line = declared.line
  column : found.column = declared.column
  declaration : found.declaration = declared.declaration
  names : Names rows declared.line declared.declaration.name found.name

/-- What a scan knows in front of a line, given which blocks are still open. -/
structure Reads (rows : List (Option Row)) (line : Nat) (isOpen : Nat → Prop)
    (state : State σ) : Prop where
  stacked : Stacked rows isOpen state.opened
  ended : ∀ block ∈ state.closed, EndsAt rows block.first block.last
  /-- Every block is open or was closed. -/
  covered : ∀ before row, before < line → RowAt rows before row → row.kind ≠ .skip →
    isOpen before ∨ ∃ block ∈ state.closed, block.first = before
  /-- The last line that was not blank, if there was one. -/
  content : ∀ before row, before < line → RowAt rows before row →
    LastContent rows line state.lastLine
  found : List.Forall₂ (FoundOn rows) (declarationLines (rows.take line)) state.found.reverse

theorem numbered_append {α : Type} (start : Nat) (first second : List α) :
    Text.numbered start (first ++ second)
      = Text.numbered start first ++ Text.numbered (start + first.length) second := by
  induction first generalizing start with
  | nil => rfl
  | cons a first ih =>
    rw [List.cons_append, Text.numbered, ih, Text.numbered, List.cons_append, List.length_cons,
      Nat.add_assoc, Nat.add_comm 1]

/-- One more line declares one thing more, or nothing. -/
theorem declarationLines_take_succ {line : Nat} {row : Option Row} (h : rows[line]? = some row) :
    declarationLines (rows.take (line + 1))
      = declarationLines (rows.take line) ++ (declarationOf? (line, row)).toList := by
  obtain ⟨hlt, -⟩ := List.getElem?_eq_some_iff.1 h
  have hlength : (rows.take line).length = line := by
    rw [List.length_take]
    omega
  unfold declarationLines
  rw [List.take_add_one, h, numbered_append, hlength, List.filterMap_append, Nat.zero_add]
  congr 1

/-- Where a block ends that is open in front of a line. -/
theorem OpenBefore.endsAt {line stop last : Nat} (h : OpenBefore rows line stop)
    (hlast : LastContent rows stop last)
    (hstop : ∀ row, RowAt rows line row →
      stop = rows.length ∨ ∃ next, RowAt rows stop next ∧ next.indent ≤ row.indent) :
    EndsAt rows line last := by
  obtain ⟨hlt, row, hrow, -, hdeeper⟩ := h
  exact ⟨stop, ⟨hlt, row, hrow, hdeeper, hstop row hrow⟩, hlast⟩

/-- What is closed in front of a line ends where it should. -/
theorem Reads.endsAt_close {line : Nat} {state : State σ}
    (h : Reads rows line (OpenBefore rows · line) state) {block : OpenBlock}
    (hblock : block ∈ state.opened)
    (hstop : line = rows.length ∨ ∃ next, RowAt rows line next ∧ next.indent ≤ block.indent) :
    EndsAt rows block.first (block.close state.lastLine).last := by
  obtain ⟨row, hstands⟩ := h.stacked.stands block hblock
  have hopen := (h.stacked.opens block.first).2 ⟨block, hblock, rfl⟩
  have hlast := h.content block.first row hopen.lt hstands.there
  have hclose : (block.close state.lastLine).last = state.lastLine := by
    -- The block begins on a line that is not blank, so the last such line is no earlier.
    refine Nat.max_eq_left ?_
    by_contra hbefore
    exact hlast.blank block.first row (by omega) hopen.lt hstands.there
  rw [hclose]
  refine hopen.endsAt hlast fun first hfirst => ?_
  cases hfirst.unique hstands.there
  rw [hstands.indent]
  exact hstop

/-- The blocks on the stack are closed or stay. -/
theorem mem_closeFrom {state : State σ} {indent : Nat} {block : OpenBlock}
    (h : block ∈ state.opened) :
    block ∈ (state.closeFrom indent).opened
      ∨ block.close state.lastLine ∈ (state.closeFrom indent).closed := by
  rw [← List.takeWhile_append_dropWhile (p := fun block : OpenBlock => decide (indent ≤ block.indent))
    (l := state.opened)] at h
  rcases List.mem_append.1 h with hended | hstays
  · exact .inr (List.mem_append_left _ (List.mem_reverse.2 (List.mem_map_of_mem hended)))
  · exact .inl hstays

theorem of_mem_closeFrom {state : State σ} {indent : Nat} {block : Block}
    (h : block ∈ (state.closeFrom indent).closed) :
    block ∈ state.closed ∨ ∃ ended ∈ state.opened, indent ≤ ended.indent
      ∧ block = ended.close state.lastLine := by
  rcases List.mem_append.1 h with hnew | hold
  · obtain ⟨ended, hended, rfl⟩ := List.mem_map.1 (List.mem_reverse.1 hnew)
    have hindent := List.mem_takeWhile_imp hended
    exact .inr ⟨ended, (List.takeWhile_sublist _).subset hended, by simpa using hindent, rfl⟩
  · exact .inl hold

/-- **A line closes blocks.** -/
theorem Reads.closeFrom {line : Nat} {row : Row} {state : State σ}
    (h : Reads rows line (OpenBefore rows · line) state) (hrow : RowAt rows line row) :
    Reads rows line (Surrounds rows · line) (state.closeFrom row.indent) := by
  refine ⟨h.stacked.closeFrom hrow, ?_, ?_, h.content, h.found⟩
  · intro block hblock
    rcases of_mem_closeFrom hblock with hold | ⟨ended, hended, hindent, rfl⟩
    · exact h.ended block hold
    · exact h.endsAt_close hended (.inr ⟨row, hrow, hindent⟩)
  · intro before first hbefore hfirst hkind
    rcases h.covered before first hbefore hfirst hkind with hopen | ⟨block, hblock, hline⟩
    · obtain ⟨block, hblock, rfl⟩ := (h.stacked.opens before).1 hopen
      rcases mem_closeFrom hblock with hstays | hclosed
      · exact .inl (((h.stacked.closeFrom hrow).opens _).2 ⟨block, hstays, rfl⟩)
      · exact .inr ⟨_, hclosed, rfl⟩
    · exact .inr ⟨block, List.mem_append_right _ hblock, hline⟩

/-- What the next line knows, once it has closed blocks and opened its own. -/
theorem Reads.advance {line : Nat} {row : Row} {state state' : State σ}
    (h : Reads rows line (Surrounds rows · line) state) (hrow : RowAt rows line row)
    (hstacked : Stacked rows (OpenBefore rows · (line + 1)) state'.opened)
    (hclosed : state'.closed = state.closed) (hlast : state'.lastLine = line)
    (hfound : List.Forall₂ (FoundOn rows) (declarationLines (rows.take (line + 1)))
      state'.found.reverse) :
    Reads rows (line + 1) (OpenBefore rows · (line + 1)) state' := by
  refine ⟨hstacked, hclosed ▸ h.ended, ?_, ?_, hfound⟩
  · intro before first hbefore hfirst hkind
    rw [hclosed, openBefore_succ_iff]
    by_cases hnow : before = line
    · subst hnow
      exact .inl (.inr ⟨rfl, first, hfirst, hkind⟩)
    · exact (h.covered before first (by omega) hfirst hkind).imp_left Or.inl
  · intro _ _ _ _
    rw [hlast]
    exact ⟨Nat.lt_succ_self line, ⟨row, hrow⟩, fun between _ hafter hbefore => by omega⟩

/-- A blank line is passed over. -/
theorem Reads.blank {line : Nat} {state : State σ}
    (h : Reads rows line (OpenBefore rows · line) state) (hrow : rows[line]? = some none) :
    Reads rows (line + 1) (OpenBefore rows · (line + 1)) state := by
  have hblank : ∀ row, ¬RowAt rows line row := by
    intro row hat
    cases hrow.symm.trans hat
  have hbefore : ∀ {before row}, before < line + 1 → RowAt rows before row → before < line := by
    intro before row hlt hat
    by_contra hge
    have : before = line := by omega
    exact hblank row (this ▸ hat)
  refine ⟨h.stacked.congr fun _ => openBefore_blank_iff hblank, h.ended, ?_, ?_, ?_⟩
  · intro before row hlt hat hkind
    rw [openBefore_blank_iff hblank]
    exact h.covered before row (hbefore hlt hat) hat hkind
  · intro before row hlt hat
    obtain ⟨hlast, hcontent, hbetween⟩ := h.content before row (hbefore hlt hat) hat
    refine ⟨Nat.lt_succ_of_lt hlast, hcontent, fun between other hafter hstop hother => ?_⟩
    exact hbetween between other hafter (hbefore hstop hother) hother
  · rw [declarationLines_take_succ hrow]
    simpa [declarationOf?] using h.found

/-- **One line.** -/
theorem Reads.read {classifier : Classifier σ} {number : Nat} {line : List Char}
    {state : State σ} (h : Reads rows number (OpenBefore rows · number) state)
    (hrow : rows[number]? = some (if Text.isBlankLine line then none
      else some ⟨Text.indent line, (classifier.step state.memory line).1⟩)) :
    Reads rows (number + 1) (OpenBefore rows · (number + 1))
      (state.read classifier number line) := by
  rw [State.read]
  split
  · rename_i hblank
    rw [if_pos hblank] at hrow
    exact h.blank hrow
  · rename_i hblank
    rw [if_neg hblank] at hrow
    have hat : RowAt rows number ⟨Text.indent line, (classifier.step state.memory line).1⟩ := hrow
    have hclose := h.closeFrom hat
    have hmemory : (state.closeFrom (Text.indent line)).memory = state.memory := rfl
    rw [← hmemory] at hat
    dsimp only at hclose ⊢
    generalize state.closeFrom (Text.indent line) = state at hclose hat ⊢
    have hlines := declarationLines_take_succ hat
    -- A line that is no skipped one opens a block, named or not.
    have hopens : ∀ {kind : LineKind} {scope : Option QualifiedName},
        RowAt rows number ⟨Text.indent line, kind⟩ → kind ≠ .skip →
        Option.Rel (Names rows number) kind.blockName? scope →
        Stacked rows (OpenBefore rows · (number + 1))
          ({ indent := Text.indent line, first := number, scope := scope } :: state.opened) :=
      fun hat hkind hscope => hclose.stacked.push ⟨hat, hkind, rfl, hscope⟩ rfl
    have hsame : declarationOf? (number, some ⟨Text.indent line,
          (classifier.step state.memory line).1⟩) = none →
        List.Forall₂ (FoundOn rows) (declarationLines (rows.take (number + 1)))
          state.found.reverse := by
      intro hnone
      rw [hlines, hnone, Option.toList_none, List.append_nil]
      exact hclose.found
    split
    · rename_i hkind
      refine hclose.advance hat (hclose.stacked.congr fun p => ?_) rfl rfl (hsame ?_)
      · rw [openBefore_succ_iff]
        refine or_iff_left ?_
        rintro ⟨-, row, hrow', hopens'⟩
        cases hrow'.unique hat
        exact hopens' hkind
      · rw [declarationOf?, hkind]
    · rename_i hkind
      exact hclose.advance hat (hopens (hkind ▸ hat) (by simp) .none) rfl rfl
        (hsame (by rw [declarationOf?, hkind]))
    · rename_i name hkind
      have hscope : Option.Rel (Names rows number) (LineKind.scope name).blockName?
          (some (state.scope ++ segmentsOf name)) := .some (hclose.stacked.names name)
      exact hclose.advance hat (hopens (hkind ▸ hat) (by simp) hscope) rfl rfl
        (hsame (by rw [declarationOf?, hkind]))
    · -- A declaration comes with its name, which is that of its block if it is a container.
      rename_i declaration hkind
      have hnames := hclose.stacked.names declaration.name
      refine hclose.advance hat (hopens (hkind ▸ hat) (by simp) ?_) rfl rfl ?_
      · rw [LineKind.blockName?]
        split
        · exact .some hnames
        · exact .none
      · rw [hlines, hkind, List.reverse_cons]
        exact List.rel_append hclose.found (.cons ⟨hkind ▸ hat, rfl, rfl, rfl, hnames⟩ .nil)

/-- In front of the first line nothing is known, and nothing is open. -/
theorem Reads.start {memory : σ} :
    Reads rows 0 (OpenBefore rows · 0) ({ memory := memory } : State σ) := by
  have hnone : ∀ line, ¬line < 0 := fun line => Nat.not_lt_zero line
  refine ⟨⟨.nil, List.forall_mem_nil _, fun line => ?_⟩, List.forall_mem_nil _, ?_, ?_, .nil⟩
  · constructor
    · intro hopen
      exact absurd hopen.lt (hnone line)
    · rintro ⟨block, hblock, -⟩
      cases hblock
  · exact fun before _ hlt => absurd hlt (hnone before)
  · exact fun before _ hlt => absurd hlt (hnone before)

/-- The memory goes the same way in the scan as over the rows. -/
theorem Classifier.rows_cons (classifier : Classifier σ) (state : State σ) (number : Nat)
    (line : List Char) (rest : List (List Char)) :
    classifier.rows state.memory (line :: rest)
      = (if Text.isBlankLine line then none
          else some ⟨Text.indent line, (classifier.step state.memory line).1⟩)
        :: classifier.rows (state.read classifier number line).memory rest := by
  rw [Classifier.rows, State.read]
  split
  · rfl
  · dsimp only
    split <;> rfl

theorem Classifier.length_rows (classifier : Classifier σ) (memory : σ)
    (lines : List (List Char)) : (classifier.rows memory lines).length = lines.length := by
  induction lines generalizing memory with
  | nil => rfl
  | cons line rest ih =>
    rw [Classifier.rows]
    split
    · rw [List.length_cons, ih, List.length_cons]
    · rw [List.length_cons, ih, List.length_cons]

/-- What every line keeps is so after all that are left. -/
theorem State.readAll_keeps {classifier : Classifier σ} {motive : Nat → State σ → Prop}
    (hread : ∀ number line state, motive number state →
      rows[number]? = some (if Text.isBlankLine line then none
        else some ⟨Text.indent line, (classifier.step state.memory line).1⟩) →
      motive (number + 1) (state.read classifier number line))
    {lines : List (List Char)} {number : Nat} {state : State σ}
    (hrows : rows.drop number = classifier.rows state.memory lines) (h : motive number state) :
    motive (number + lines.length) (state.readAll classifier (Text.numbered number lines)) := by
  induction lines generalizing number state with
  | nil => exact h
  | cons line rest ih =>
    rw [classifier.rows_cons state number line rest] at hrows
    have hat : (rows.drop number)[0]? = rows[number + 0]? := List.getElem?_drop
    rw [hrows, Nat.add_zero, List.getElem?_cons_zero] at hat
    have htail := congrArg List.tail hrows
    rw [List.tail_drop, List.tail_cons] at htail
    have hrest := ih htail (hread number line state h hat.symm)
    rw [List.length_cons, Nat.add_comm rest.length, ← Nat.add_assoc]
    exact hrest

/-- **All lines.** What holds in front of the first line, and is kept by every line, holds at the
end of the text. -/
theorem State.readAll_source_keeps {classifier : Classifier σ} {source : String}
    {motive : Nat → State σ → Prop}
    (hrows : classifier.rows classifier.initial (Text.lines source) = rows)
    (hread : ∀ number line state, motive number state →
      rows[number]? = some (if Text.isBlankLine line then none
        else some ⟨Text.indent line, (classifier.step state.memory line).1⟩) →
      motive (number + 1) (state.read classifier number line))
    (h : motive 0 { memory := classifier.initial }) :
    motive rows.length (State.readAll classifier { memory := classifier.initial }
      (Text.numbered 0 (Text.lines source))) := by
  have hlength := classifier.length_rows classifier.initial (Text.lines source)
  rw [hrows] at hlength
  have hdrop : rows.drop 0 = classifier.rows (State.memory { memory := classifier.initial })
      (Text.lines source) := hrows.symm
  have hall := State.readAll_keeps hread hdrop h
  rwa [Nat.zero_add, ← hlength] at hall

/-- Whichever block of a line is found first, its end is the right one. -/
theorem endsAt_lastLineOf {blocks : List Block}
    (hended : ∀ block ∈ blocks, EndsAt rows block.first block.last) {line : Nat}
    (hcovered : ∃ block ∈ blocks, block.first = line) :
    EndsAt rows line (lastLineOf blocks line) := by
  obtain ⟨block, hfind⟩ : ∃ block, blocks.find? (fun block => block.first == line) = some block := by
    rw [← Option.isSome_iff_exists, List.find?_isSome]
    obtain ⟨block, hblock, hfirst⟩ := hcovered
    exact ⟨block, hblock, beq_iff_eq.2 hfirst⟩
  have hfirst : block.first = line := by simpa using List.find?_some hfind
  rw [lastLineOf, hfind, ← hfirst]
  exact hended block (List.mem_of_find?_eq_some hfind)

/-- What the scan of a text gives, told from its lines: the declarations in order, each with its
qualified name, and the blocks of all lines that open one. -/
structure ByIndentation (rows : List (Option Row)) (found : List Found) (blocks : List Block) :
    Prop where
  found : List.Forall₂ (FoundOn rows) (declarationLines rows) found
  ended : ∀ block ∈ blocks, EndsAt rows block.first block.last
  covered : ∀ line row, RowAt rows line row → row.kind ≠ .skip → ∃ block ∈ blocks, block.first = line

/-- **The scan of a text.** -/
theorem byIndentation_scan (classifier : Classifier σ) (source : String) :
    ByIndentation (classifier.rows classifier.initial (Text.lines source))
      (scan classifier source).1 (scan classifier source).2 := by
  rw [scan]
  generalize hrows : classifier.rows classifier.initial (Text.lines source) = rows
  have hall := State.readAll_source_keeps
    (motive := fun number => Reads rows number (OpenBefore rows · number)) hrows
    (fun _ _ _ hreads hrow => hreads.read hrow) .start
  generalize State.readAll classifier { memory := classifier.initial }
    (Text.numbered 0 (Text.lines source)) = state at hall
  refine ⟨?_, ?_, ?_⟩
  · have hfound := hall.found
    rw [List.take_length] at hfound
    exact hfound
  · intro block hblock
    rcases of_mem_closeFrom (List.mem_reverse.1 hblock) with hold | ⟨ended, hended, -, rfl⟩
    · exact hall.ended block hold
    · exact hall.endsAt_close hended (.inl rfl)
  · intro line row hrow hkind
    rcases hall.covered line row hrow.lt_length hrow hkind with hopen | ⟨block, hblock, hline⟩
    · -- The end of the text closes whatever is open.
      obtain ⟨block, hblock, rfl⟩ := (hall.stacked.opens line).1 hopen
      refine ⟨block.close state.lastLine, List.mem_reverse.2 ?_, rfl⟩
      refine (mem_closeFrom hblock).resolve_left ?_
      simp [State.closeFrom, List.dropWhile_eq_nil_iff.2]
    · exact ⟨block, List.mem_reverse.2 (List.mem_append_right _ hblock), hline⟩

/-- A class with a method that is indented less than the one before it, and a method in a block
without a name. The comment and the decorator open no block, but the decorator closes some. -/
example :
    let scanned := scan (Python.classifier true) "class A:\n    def f():\n        pass\n
    # note\n  def g():\n@deco\nif x:\n    def h():\n\n        y\n"
    scanned.1.map (fun found => (found.name, found.line, found.column,
        lastLineOf scanned.2 found.line))
      = [(["A"], 0, 0, 5), (["A", "f"], 1, 4, 2), (["A", "g"], 5, 2, 5), (["h"], 8, 4, 10)] := by
  decide +kernel

end LineScan

end SourceOutline
