/-
Comments between the lines of a Python source.

A comment declares nothing and opens no block, and what is remembered of the lines before it
stays as it is. So whatever comments are inserted, the same lines declare the same things
(`declarationLines_weave`). But a comment that is indented no more than the first line of a block
closes the block, as any other line does, and what is declared further down is then no longer in
it. Comments that close no block in which something is declared later change no member apart from
its lines (`comments_change_no_member`).

The argument is about the lines alone, and the stack of the scan does not come up. A line keeps
the lines it lies in the block of, and what lies in which block gives the qualified names, the
order in which blocks end, and by these the forest.
-/
import Mathlib
import SourceOutline.Proofs.Blocks
import SourceOutline.Proofs.Construction
import SourceOutline.Proofs.Substrings

set_option autoImplicit false

namespace SourceOutline

/-! ## Lines with others in between -/

section Weave

open LineScan

variable {α β : Type}

/-- A list with others inserted: those of a number in front of the element of that number, and
those of the next number at the end. -/
def weave (inserted : Nat → List α) (number : Nat) : List α → List α
  | [] => inserted number
  | a :: rest => inserted number ++ a :: weave inserted (number + 1) rest

/-- The number an element has once the others are inserted. -/
def newNumber (inserted : Nat → List α) : Nat → Nat
  | 0 => (inserted 0).length
  | number + 1 => newNumber inserted number + 1 + (inserted (number + 1)).length

theorem newNumber_map (f : α → β) (inserted : Nat → List α) :
    newNumber (fun number => (inserted number).map f) = newNumber inserted := by
  funext number
  induction number with
  | zero => exact List.length_map f
  | succ number ih => rw [newNumber, ih, newNumber, List.length_map]

variable (inserted : Nat → List α)

theorem newNumber_zero : newNumber inserted 0 = 0 + (inserted 0).length :=
  (Nat.zero_add _).symm

/-- What is inserted in front of an element has room behind the elements before it. -/
theorem newNumber_add_lt {number next : Nat} (h : number < next) :
    newNumber inserted number + (inserted next).length < newNumber inserted next := by
  induction next with
  | zero => omega
  | succ next ih =>
    rw [newNumber]
    by_cases hlast : number = next
    · subst hlast
      omega
    · have := ih (by omega)
      omega

theorem strictMono_newNumber : StrictMono (newNumber inserted) := by
  intro number next h
  have := newNumber_add_lt inserted h
  omega

variable {inserted}

/-- An element has its new number. -/
theorem mem_numbered_weave {number start k : Nat} {a : α} {l : List α}
    (hstart : newNumber inserted number = start + (inserted number).length)
    (h : (k, a) ∈ Text.numbered number l) :
    (newNumber inserted k, a) ∈ Text.numbered start (weave inserted number l) := by
  induction l generalizing number start with
  | nil => cases h
  | cons first rest ih =>
    rw [weave, numbered_append, Text.numbered, ← hstart]
    apply List.mem_append_right
    rcases List.mem_cons.1 h with heq | hrest
    · cases heq
      exact List.mem_cons_self
    · exact List.mem_cons_of_mem _ (ih rfl hrest)

/-- A number between those of the elements before one and the number of that one. -/
def InFrontOf (inserted : Nat → List α) (next k : Nat) : Prop :=
  k < newNumber inserted next ∧ ∀ old < next, newNumber inserted old < k

theorem inFrontOf_of_mem_numbered {number start k : Nat} {a : α}
    (hstart : newNumber inserted number = start + (inserted number).length)
    (h : (k, a) ∈ Text.numbered start (inserted number)) : InFrontOf inserted number k := by
  obtain ⟨hle, hat⟩ := Text.mem_numbered.1 h
  obtain ⟨hlt, -⟩ := List.getElem?_eq_some_iff.1 hat
  refine ⟨by omega, fun old hold => ?_⟩
  have := newNumber_add_lt inserted hold
  omega

/-- Everything else was inserted in front of an element, behind those before it. -/
theorem of_mem_numbered_weave {number start k : Nat} {a : α} {l : List α}
    (hstart : newNumber inserted number = start + (inserted number).length)
    (h : (k, a) ∈ Text.numbered start (weave inserted number l)) :
    (∃ old, k = newNumber inserted old ∧ (old, a) ∈ Text.numbered number l)
      ∨ ∃ next, a ∈ inserted next ∧ InFrontOf inserted next k := by
  have hnew : ∀ {number start}, newNumber inserted number = start + (inserted number).length →
      (k, a) ∈ Text.numbered start (inserted number) →
      ∃ next, a ∈ inserted next ∧ InFrontOf inserted next k := by
    intro number start hstart hmem
    exact ⟨number, List.mem_of_getElem? (Text.mem_numbered.1 hmem).2,
      inFrontOf_of_mem_numbered hstart hmem⟩
  induction l generalizing number start with
  | nil => exact .inr (hnew hstart h)
  | cons first rest ih =>
    rw [weave, numbered_append, Text.numbered, ← hstart] at h
    rcases List.mem_append.1 h with hbefore | hbehind
    · exact .inr (hnew hstart hbefore)
    · rcases List.mem_cons.1 hbehind with heq | hrest
      · cases heq
        exact .inl ⟨number, rfl, List.mem_cons_self⟩
      · refine (ih rfl hrest).imp_left ?_
        rintro ⟨old, hk, hold⟩
        exact ⟨old, hk, List.mem_cons_of_mem _ hold⟩

/-- What comes to nothing may be inserted anywhere. -/
theorem filterMap_numbered_weave {f : Nat × α → Option β} {move : β → β}
    (hinserted : ∀ next, ∀ a ∈ inserted next, ∀ k, f (k, a) = none)
    (hmove : ∀ old a, f (newNumber inserted old, a) = (f (old, a)).map move)
    {number start : Nat} {l : List α}
    (hstart : newNumber inserted number = start + (inserted number).length) :
    (Text.numbered start (weave inserted number l)).filterMap f
      = ((Text.numbered number l).filterMap f).map move := by
  have hnone : ∀ start number, (Text.numbered start (inserted number)).filterMap f = [] := by
    intro start number
    rw [List.filterMap_eq_nil_iff]
    rintro ⟨k, a⟩ hmem
    exact hinserted number a (List.mem_of_getElem? (Text.mem_numbered.1 hmem).2) k
  induction l generalizing number start with
  | nil => exact hnone start number
  | cons first rest ih =>
    have hrest : (Text.numbered (newNumber inserted number + 1)
          (weave inserted (number + 1) rest)).filterMap f
        = ((Text.numbered (number + 1) rest).filterMap f).map move := ih rfl
    rw [weave, numbered_append, List.filterMap_append, hnone, List.nil_append, ← hstart,
      Text.numbered, Text.numbered, List.filterMap_cons, List.filterMap_cons, hmove]
    cases f (number, first) with
    | none => exact hrest
    | some b => exact congrArg (move b :: ·) hrest

end Weave

/-- An entry with its first line renumbered, and without its last. -/
def Entry.placed (place : Nat → Nat) (entry : Entry) : Entry :=
  { entry with startLine := place entry.startLine, endLine := none }

theorem Entry.keepsOrder_placed {place : Nat → Nat} (h : StrictMono place) :
    KeepsOrder (Entry.placed place) := fun _ _ => h.le_iff_le

namespace LineScan

variable {σ : Type}

/-- A line that declares something, renumbered. -/
def DeclarationLine.moved (place : Nat → Nat) (declared : DeclarationLine) : DeclarationLine :=
  { declared with line := place declared.line }

/-- A declaration on a renumbered line. -/
def Found.moved (place : Nat → Nat) (found : Found) : Found :=
  { found with line := place found.line }

/-! ## Skipped lines -/

/-- A line that is passed over: it opens no block, and nothing is remembered of it. -/
structure Classifier.Ignores (classifier : Classifier σ) (line : List Char) : Prop where
  content : Text.isBlankLine line = false
  step : ∀ memory, classifier.step memory line = (.skip, memory)

def skippedRow (line : List Char) : Option Row := some ⟨Text.indent line, .skip⟩

theorem Classifier.rows_append_ignored {classifier : Classifier σ} {ignored : List (List Char)}
    (h : ∀ line ∈ ignored, classifier.Ignores line) (memory : σ) (lines : List (List Char)) :
    classifier.rows memory (ignored ++ lines)
      = ignored.map skippedRow ++ classifier.rows memory lines := by
  induction ignored with
  | nil => rfl
  | cons line rest ih =>
    obtain ⟨hline, hrest⟩ := List.forall_mem_cons.1 h
    rw [List.cons_append, Classifier.rows, if_neg (by simp [hline.content]), hline.step, ih hrest]
    rfl

theorem Classifier.rows_weave {classifier : Classifier σ} {inserted : Nat → List (List Char)}
    (h : ∀ number, ∀ line ∈ inserted number, classifier.Ignores line) (memory : σ) (number : Nat)
    (lines : List (List Char)) :
    classifier.rows memory (weave inserted number lines)
      = weave (fun number => (inserted number).map skippedRow) number
          (classifier.rows memory lines) := by
  induction lines generalizing memory number with
  | nil =>
    have hall := classifier.rows_append_ignored (h number) memory []
    rw [List.append_nil] at hall
    exact hall.trans (List.append_nil _)
  | cons line rest ih =>
    rw [weave, classifier.rows_append_ignored (h number), Classifier.rows, Classifier.rows]
    split
    · rw [ih, weave]
    · rw [ih, weave]

/-- The lines of a text with skipped ones inserted. -/
def withSkipped (inserted : Nat → List (List Char)) (rows : List (Option Row)) :
    List (Option Row) :=
  weave (fun number => (inserted number).map skippedRow) 0 rows

section Skipped

variable {rows : List (Option Row)} {inserted : Nat → List (List Char)}

theorem rowAt_withSkipped {line : Nat} {row : Row} (h : RowAt rows line row) :
    RowAt (withSkipped inserted rows) (newNumber inserted line) row := by
  have hmem : (line, some row) ∈ Text.numbered 0 rows := Text.mem_numbered.2 ⟨Nat.zero_le _, h⟩
  have hnew : (newNumber (fun number => (inserted number).map skippedRow) line, some row)
      ∈ Text.numbered 0 (withSkipped inserted rows) := mem_numbered_weave (newNumber_zero _) hmem
  rw [newNumber_map] at hnew
  exact (Text.mem_numbered.1 hnew).2

theorem of_rowAt_withSkipped {line : Nat} {row : Row}
    (h : RowAt (withSkipped inserted rows) line row) :
    (∃ old, line = newNumber inserted old ∧ RowAt rows old row)
      ∨ ∃ next, ∃ skipped ∈ inserted next, row = ⟨Text.indent skipped, .skip⟩
        ∧ InFrontOf inserted next line := by
  have hmem : (line, some row) ∈ Text.numbered 0 (withSkipped inserted rows) :=
    Text.mem_numbered.2 ⟨Nat.zero_le _, h⟩
  rcases of_mem_numbered_weave (newNumber_zero _) hmem with
    ⟨old, hline, hold⟩ | ⟨next, hrow, hbetween⟩
  · rw [newNumber_map] at hline
    exact .inl ⟨old, hline, (Text.mem_numbered.1 hold).2⟩
  · obtain ⟨skipped, hskipped, heq⟩ := List.mem_map.1 hrow
    unfold InFrontOf at hbetween
    rw [newNumber_map] at hbetween
    exact .inr ⟨next, skipped, hskipped, (Option.some.inj heq).symm, hbetween⟩

/-- A line that is not skipped was there before. -/
theorem of_rowAt_withSkipped_of_ne {line : Nat} {row : Row}
    (h : RowAt (withSkipped inserted rows) line row) (hkind : row.kind ≠ .skip) :
    ∃ old, line = newNumber inserted old ∧ RowAt rows old row := by
  rcases of_rowAt_withSkipped h with hold | ⟨next, skipped, -, rfl, -⟩
  · exact hold
  · exact absurd rfl hkind

/-- The same lines declare the same things, wherever skipped lines are inserted. -/
theorem declarationLines_withSkipped :
    declarationLines (withSkipped inserted rows)
      = (declarationLines rows).map (DeclarationLine.moved (newNumber inserted)) := by
  unfold declarationLines withSkipped
  rw [← newNumber_map skippedRow inserted]
  apply filterMap_numbered_weave
  · intro next row hrow k
    obtain ⟨skipped, -, rfl⟩ := List.mem_map.1 hrow
    rfl
  · intro old row
    rcases row with - | ⟨indent, kind⟩
    · rfl
    · cases kind <;> rfl
  · exact newNumber_zero _

/-! ## What lies in which block -/

/-- A line that declares something or gives a name to its block. -/
def LineKind.IsNamed (kind : LineKind) : Prop := kind ≠ .plain ∧ kind ≠ .skip

/-- Of the blocks that go on over what stands in front of a line, those in which something is
declared later begin with a line that is indented less. -/
def LeavesOpen (rows : List (Option Row)) (next indent : Nat) : Prop :=
  ∀ outer line first row, outer < next → next ≤ line → Surrounds rows outer line →
    RowAt rows outer first → RowAt rows line row → row.kind.IsNamed → first.indent < indent

/-- A line leaves the blocks open that the next line leaves open, if it is indented no less. -/
theorem LeavesOpen.of_next {next indent : Nat} {row : Row} (hrow : RowAt rows next row)
    (hle : row.indent ≤ indent) : LeavesOpen rows next indent := by
  intro outer line first _ houter hline hsurrounds hfirst _ _
  obtain ⟨-, -, first', hfirst', -, hdeeper⟩ := hsurrounds
  cases hfirst.unique hfirst'
  have := hdeeper next row houter (Nat.lt_succ_of_le hline) hrow
  omega

/-- Where nothing is declared any more, a line may close any block. -/
theorem LeavesOpen.of_unnamed {next indent : Nat}
    (h : ∀ line row, next ≤ line → RowAt rows line row → ¬row.kind.IsNamed) :
    LeavesOpen rows next indent := fun _ line _ row _ hline _ _ hrow hnamed =>
  absurd hnamed (h line row hline hrow)

/-- Skipped lines bring no line into a block. -/
theorem surrounds_of_withSkipped {outer line : Nat}
    (h : Surrounds (withSkipped inserted rows) (newNumber inserted outer)
      (newNumber inserted line)) :
    Surrounds rows outer line := by
  have hmono := strictMono_newNumber inserted
  obtain ⟨hlt, -, first, hfirst, hkind, hdeeper⟩ := h
  obtain ⟨old, heq, hold⟩ := of_rowAt_withSkipped_of_ne hfirst hkind
  cases hmono.injective heq
  have hlt' := hmono.lt_iff_lt.1 hlt
  refine ⟨hlt', Nat.lt_succ_of_lt hlt', first, hold, hkind, ?_⟩
  -- A line in between is still in between under its new number.
  intro between row hafter hbefore hrow
  have hle := hmono.monotone (Nat.le_of_lt_succ hbefore)
  exact hdeeper _ row (hmono hafter) (Nat.lt_succ_of_le hle) (rowAt_withSkipped hrow)

theorem exists_of_surrounds_withSkipped {outer line : Nat}
    (h : Surrounds (withSkipped inserted rows) outer line) :
    ∃ old, outer = newNumber inserted old := by
  obtain ⟨-, -, first, hfirst, hkind, -⟩ := h
  obtain ⟨old, heq, -⟩ := of_rowAt_withSkipped_of_ne hfirst hkind
  exact ⟨old, heq⟩

variable (hleaves : ∀ next, ∀ line ∈ inserted next, LeavesOpen rows next (Text.indent line))

include hleaves

/-- **What is declared in a block stays in it** if the skipped lines leave it open. -/
theorem surrounds_withSkipped {outer line : Nat} {row : Row} (h : Surrounds rows outer line)
    (hrow : RowAt rows line row) (hnamed : row.kind.IsNamed) :
    Surrounds (withSkipped inserted rows) (newNumber inserted outer) (newNumber inserted line) := by
  have hmono := strictMono_newNumber inserted
  obtain ⟨hlt, -, first, hfirst, hkind, hdeeper⟩ := h
  refine ⟨hmono hlt, Nat.lt_succ_of_lt (hmono hlt), first, rowAt_withSkipped hfirst, hkind, ?_⟩
  intro between other hafter hbefore hother
  rcases of_rowAt_withSkipped hother with
    ⟨old, rfl, hold⟩ | ⟨next, skipped, hskipped, rfl, hstop, hstart⟩
  · have hle := hmono.le_iff_le.1 (Nat.le_of_lt_succ hbefore)
    exact hdeeper old other (hmono.lt_iff_lt.1 hafter) (Nat.lt_succ_of_le hle) hold
  · -- The skipped line stands in front of a line of the block, so it may not close the block.
    have houter : outer < next := hmono.lt_iff_lt.1 (Nat.lt_trans hafter hstop)
    have hline : next ≤ line := by
      by_contra hbehind
      have := hstart line (by omega)
      omega
    exact hleaves next skipped hskipped outer line first row houter hline
      ⟨hlt, Nat.lt_succ_of_lt hlt, first, hfirst, hkind, hdeeper⟩ hfirst hrow hnamed

theorem parent_withSkipped {parent line : Nat} {row : Row} (h : Parent rows parent line)
    (hrow : RowAt rows line row) (hnamed : row.kind.IsNamed) :
    Parent (withSkipped inserted rows) (newNumber inserted parent) (newNumber inserted line) := by
  refine ⟨surrounds_withSkipped hleaves h.surrounds hrow hnamed, fun other hother => ?_⟩
  obtain ⟨old, rfl⟩ := exists_of_surrounds_withSkipped hother
  exact (strictMono_newNumber inserted).monotone (h.latest old (surrounds_of_withSkipped hother))

omit hleaves in
theorem LineKind.isNamed_of_blockName? {kind : LineKind} {name : String}
    (h : kind.blockName? = some name) : kind.IsNamed := by
  constructor
  · rintro rfl
    cases h
  · rintro rfl
    cases h

/-- **A qualified name stays.** The induction goes outwards over the blocks, and all lines on the
way that are asked for the block around them have names. -/
theorem QualifiedAs.withSkipped {line : Nat} {name qualified : String}
    (h : QualifiedAs rows line name qualified) {row : Row} (hrow : RowAt rows line row)
    (hnamed : row.kind.IsNamed) :
    QualifiedAs (LineScan.withSkipped inserted rows) (newNumber inserted line) name qualified := by
  induction h generalizing row with
  | top hnone =>
    refine .top fun outer houter => ?_
    obtain ⟨old, rfl⟩ := exists_of_surrounds_withSkipped houter
    exact hnone old (surrounds_of_withSkipped houter)
  | anonymous hparent hfirst hname =>
    exact .anonymous (parent_withSkipped hleaves hparent hrow hnamed) (rowAt_withSkipped hfirst)
      hname
  | under hparent hfirst hname _ ih =>
    exact .under (parent_withSkipped hleaves hparent hrow hnamed) (rowAt_withSkipped hfirst) hname
      (ih hfirst (LineKind.isNamed_of_blockName? hname))

theorem Called.withSkipped {line : Nat} {qualified : String} (h : Called rows line qualified) :
    Called (LineScan.withSkipped inserted rows) (newNumber inserted line) qualified := by
  obtain ⟨row, name, hrow, hname, hqualified⟩ := h
  exact ⟨row, name, rowAt_withSkipped hrow, hname,
    hqualified.withSkipped hleaves hrow (LineKind.isNamed_of_blockName? hname)⟩

theorem EndsFirst.withSkipped {line other : Nat} {row : Row} (h : EndsFirst rows line other)
    (hrow : RowAt rows line row) (hnamed : row.kind.IsNamed) :
    EndsFirst (LineScan.withSkipped inserted rows) (newNumber inserted line)
      (newNumber inserted other) := by
  rcases h with hin | ⟨hlt, hout⟩
  · exact .inl (surrounds_withSkipped hleaves hin hrow hnamed)
  · exact .inr ⟨strictMono_newNumber inserted hlt, fun hin => hout (surrounds_of_withSkipped hin)⟩

/-! ## The two scans -/

section Scans

variable {found found' : List Found} {blocks blocks' : List Block} {stop stop' : Nat}
  (hscan : ByIndentation rows found blocks) (horder : InOrder rows stop (blocks.map Block.opening))
  (hscan' : ByIndentation (withSkipped inserted rows) found' blocks')
  (horder' : InOrder (withSkipped inserted rows) stop' (blocks'.map Block.opening))

include hscan horder

/-- A block of the longer text that has a name was there before, and had this name. -/
theorem exists_called_of_withSkipped {line : Nat} {qualified : String}
    (h : Called (withSkipped inserted rows) line qualified) :
    ∃ old, line = newNumber inserted old ∧ Called rows old qualified := by
  obtain ⟨row, name, hrow, hname, hqualified⟩ := h
  have hnamed := LineKind.isNamed_of_blockName? hname
  obtain ⟨old, rfl, hold⟩ := of_rowAt_withSkipped_of_ne hrow hnamed.2
  obtain ⟨before, hbefore⟩ := exists_qualifiedAs hscan horder hold hname
  cases hqualified.unique (hbefore.withSkipped hleaves hold hnamed)
  exact ⟨old, rfl, row, name, hold, hname, hbefore⟩

theorem FirstCalled.withSkipped {line : Nat} {qualified : String}
    (h : FirstCalled rows line qualified) :
    FirstCalled (LineScan.withSkipped inserted rows) (newNumber inserted line) qualified := by
  refine ⟨h.called.withSkipped hleaves, fun other hother hne => ?_⟩
  obtain ⟨old, rfl, hold⟩ := exists_called_of_withSkipped hleaves hscan horder hother
  obtain ⟨row, name, hrow, hname, -⟩ := h.called
  have hends := h.first old hold fun heq => hne (heq ▸ rfl)
  exact hends.withSkipped hleaves hrow (LineKind.isNamed_of_blockName? hname)

include hscan' horder'

/-- **The lines of a name.** The same block of that name ends first. -/
theorem spanOf?_withSkipped (name : QualifiedName) :
    (spanOf? blocks' name).map Prod.fst
      = (spanOf? blocks name).map fun span => newNumber inserted span.1 := by
  cases hspan : spanOf? blocks name with
  | some span =>
    obtain ⟨first, last⟩ := span
    obtain ⟨qualified, rfl⟩ := segmentsOf_of_spanOf? horder hspan
    obtain ⟨hfirst, -⟩ := firstCalled_of_spanOf? hscan horder hspan
    have hnew := hfirst.withSkipped hleaves hscan horder
    cases hspan' : spanOf? blocks' (segmentsOf qualified) with
    | none => exact absurd hnew.called (not_called_of_spanOf? hscan' horder' hspan' _)
    | some span' =>
      obtain ⟨first', last'⟩ := span'
      obtain ⟨hfirst', -⟩ := firstCalled_of_spanOf? hscan' horder' hspan'
      exact congrArg some (hfirst'.unique hnew)
  | none =>
    -- A block of this name in the longer text would have had it before.
    cases hspan' : spanOf? blocks' name with
    | none => rfl
    | some span' =>
      obtain ⟨first', last'⟩ := span'
      obtain ⟨qualified, rfl⟩ := segmentsOf_of_spanOf? horder' hspan'
      obtain ⟨hfirst', -⟩ := firstCalled_of_spanOf? hscan' horder' hspan'
      obtain ⟨old, -, hold⟩ := exists_called_of_withSkipped hleaves hscan horder hfirst'.called
      exact absurd hold (not_called_of_spanOf? hscan horder hspan old)

/-- What is supplied for a name begins on the same line. -/
theorem supplied_withSkipped (line : Nat) (name : String) (outer : QualifiedName) :
    (supplied blocks' (newNumber inserted line) name outer).entry.placed id
      = (supplied blocks line name outer).entry.placed (newNumber inserted) := by
  have hspan := spanOf?_withSkipped hleaves hscan horder hscan' horder' (outer ++ [name])
  have hentry : ∀ (blocks : List Block) (line : Nat), (supplied blocks line name outer).entry
      = { kind := .genericType, name := name, parent := ancestryOf outer
          startLine := (((spanOf? blocks (outer ++ [name])).map Prod.fst).getD line)
          endLine := some (((spanOf? blocks (outer ++ [name])).map Prod.snd).getD line) } := by
    intro blocks line
    rw [supplied]
    cases spanOf? blocks (outer ++ [name]) <;> rfl
  rw [hentry, hentry, hspan]
  cases spanOf? blocks (outer ++ [name]) <;> rfl

/-- A declaration comes to the same entry, apart from lines, and so does what is supplied for it. -/
theorem alike_moved (found : Found) :
    Alike (Entry.placed (newNumber inserted)) (Entry.placed id) blocks blocks' found
      (found.moved (newNumber inserted)) where
  name := rfl
  kind := rfl
  entry := rfl
  supplied := supplied_withSkipped hleaves hscan horder hscan' horder' found.line

omit hscan horder hscan' horder'

/-- The same declaration is found, under the same name. -/
theorem FoundOn.withSkipped {declared : DeclarationLine} {found found' : Found}
    (h : FoundOn rows declared found) (hdotless : Dotless found.name)
    (h' : FoundOn (LineScan.withSkipped inserted rows) (declared.moved (newNumber inserted)) found')
    (hdotless' : Dotless found'.name) : found' = found.moved (newNumber inserted) := by
  have hname : found'.name = found.name := by
    have hnew := h.names.qualified.withSkipped hleaves h.there ⟨by simp, by simp⟩
    rw [h'.names.eq_segmentsOf hdotless' hnew, segmentsOf_joinTexts h.names.ne_nil hdotless]
  have hline : found'.line = newNumber inserted found.line := by
    rw [h'.line, h.line]
    rfl
  have hcolumn : found'.column = found.column := h'.column.trans h.column.symm
  have hdeclaration : found'.declaration = found.declaration :=
    h'.declaration.trans h.declaration.symm
  cases found'
  simp_all [Found.moved]

theorem found_withSkipped
    (hfound : List.Forall₂ (FoundOn rows) (declarationLines rows) found)
    (hdotless : ∀ declared ∈ found, Dotless declared.name)
    (hfound' : List.Forall₂ (FoundOn (withSkipped inserted rows))
      (declarationLines (withSkipped inserted rows)) found')
    (hdotless' : ∀ declared ∈ found', Dotless declared.name) :
    found' = found.map (Found.moved (newNumber inserted)) := by
  rw [declarationLines_withSkipped] at hfound'
  generalize declarationLines rows = declared at hfound hfound'
  induction hfound generalizing found' with
  | nil =>
    cases hfound'
    rfl
  | cons hfirst _ ih =>
    obtain ⟨hname, hnames⟩ := List.forall_mem_cons.1 hdotless
    cases hfound' with
    | cons hfirst' hrest' =>
      obtain ⟨hname', hnames'⟩ := List.forall_mem_cons.1 hdotless'
      rw [List.map_cons, ih hnames hnames' hrest',
        hfirst.withSkipped hleaves hname hfirst' hname']

end Scans

end Skipped

section Scans

variable {classifier : Classifier σ} {source longer : String} {inserted : Nat → List (List Char)}
  (hlines : Text.lines longer = weave inserted 0 (Text.lines source))
  (hignored : ∀ number, ∀ line ∈ inserted number, classifier.Ignores line)

include hlines hignored

theorem rows_lines_weave : classifier.rows classifier.initial (Text.lines longer)
    = withSkipped inserted (classifier.rows classifier.initial (Text.lines source)) := by
  rw [hlines, Classifier.rows_weave hignored]
  rfl

/-- Lines that are passed over may be inserted anywhere, and the same is declared. -/
theorem map_declared_scan_weave :
    (scan classifier longer).1.map Found.declared
      = ((scan classifier source).1.map Found.declared).map
          (DeclarationLine.moved (newNumber inserted)) := by
  rw [(byIndentation_scan classifier longer).map_declared,
    (byIndentation_scan classifier source).map_declared, rows_lines_weave hlines hignored]
  exact declarationLines_withSkipped

/-- **Lines that are passed over** and leave open the blocks in which something is declared
later. -/
theorem forest_weave (hleaves : ∀ number, ∀ line ∈ inserted number,
      LeavesOpen (classifier.rows classifier.initial (Text.lines source)) number
        (Text.indent line)) :
    (forest classifier longer).mapEntries (Entry.placed id)
      = (forest classifier source).mapEntries (Entry.placed (newNumber inserted)) := by
  have hscan := byIndentation_scan classifier source
  obtain ⟨horder, hdotless⟩ := inOrder_scan classifier source
  have hscan' := byIndentation_scan classifier longer
  obtain ⟨horder', hdotless'⟩ := inOrder_scan classifier longer
  rw [rows_lines_weave hlines hignored] at hscan' horder'
  have hfound := found_withSkipped hleaves hscan.found hdotless hscan'.found hdotless'
  unfold forest
  dsimp only
  rw [hfound]
  refine structured_mapEntries (Entry.keepsOrder_placed (strictMono_newNumber inserted))
    (Entry.keepsOrder_placed strictMono_id) ?_
  rw [List.forall₂_map_right_iff, List.forall₂_same]
  intro found _
  exact alike_moved hleaves hscan horder hscan' horder' found

end Scans

end LineScan

/-! ## Comments -/

namespace Python

open LineScan

/-- A line whose first character that is not blank is the sign of a comment. -/
def IsComment (line : List Char) : Prop := (Text.trimStart line).head? = some '#'

theorem ignores_of_isComment (showSignatures : Bool) {line : List Char} (h : IsComment line) :
    (classifier showSignatures).Ignores line := by
  obtain ⟨rest, hstart⟩ := List.head?_eq_some_iff.1 h
  have hmark : Text.isBlank '#' = false := by decide
  have hmem : '#' ∈ line := by
    have hsublist : Text.trimStart line <:+ line := List.dropWhile_suffix _
    rw [hstart] at hsublist
    exact hsublist.subset List.mem_cons_self
  constructor
  · unfold Text.isBlankLine
    rw [List.all_eq_false]
    exact ⟨'#', hmem, by simp [hmark]⟩
  · intro pending
    have htrim : Text.trimEnd ('#' :: rest) = '#' :: Text.trimEnd rest :=
      Text.trimEnd_append_cons [] hmark rest
    have hcomment : Text.startsWith ['#'] (Text.trim line) = true := by
      unfold Text.trim
      rw [hstart, htrim]
      rfl
    change classify showSignatures pending line = _
    unfold classify
    rw [if_pos hcomment]

/-- **Comments change no member.** Wherever they are inserted, the same lines declare the same
things. If they close no block in which something is declared later, the forest is the same apart
from the last lines of members, with every first line where the insertion has moved it. -/
theorem comments_change_no_member (showSignatures : Bool) {source commented : String}
    {inserted : Nat → List (List Char)}
    (hlines : Text.lines commented = weave inserted 0 (Text.lines source))
    (hcomments : ∀ number, ∀ line ∈ inserted number, IsComment line) :
    (scan (classifier showSignatures) commented).1.map Found.declared
        = ((scan (classifier showSignatures) source).1.map Found.declared).map
          (DeclarationLine.moved (newNumber inserted))
      ∧ ((∀ number, ∀ line ∈ inserted number,
          LeavesOpen ((classifier showSignatures).rows .none (Text.lines source)) number
            (Text.indent line)) →
        (members showSignatures commented).mapEntries (Entry.placed id)
          = (members showSignatures source).mapEntries (Entry.placed (newNumber inserted))) := by
  have hignored : ∀ number, ∀ line ∈ inserted number, (classifier showSignatures).Ignores line :=
    fun number line hline => ignores_of_isComment showSignatures (hcomments number line hline)
  exact ⟨map_declared_scan_weave hlines hignored, forest_weave hlines hignored⟩

/-- One comment is indented as far as the method behind it. The other one stands at the margin and
closes the method and the class, but nothing is declared in them any more. -/
theorem comments_change_no_member_in_class :
    let source := "class A:\n  def f():\n    x\n  def g():\n    y\n"
    let commented := "class A:\n  def f():\n    x\n  # note\n  def g():\n# note\n    y\n"
    let inserted : Nat → List (List Char) := fun number =>
      if number = 3 then ["  # note".toList] else if number = 4 then ["# note".toList] else []
    (members true commented).mapEntries (Entry.placed id)
      = (members true source).mapEntries (Entry.placed (newNumber inserted)) := by
  intro source commented inserted
  have hlines : Text.lines commented = weave inserted 0 (Text.lines source) := by decide
  have hinserted : ∀ {P : Nat → List Char → Prop}, P 3 "  # note".toList → P 4 "# note".toList →
      ∀ number, ∀ line ∈ inserted number, P number line := by
    intro P h3 h4 number line hline
    dsimp only [inserted] at hline
    split at hline
    · simp_all
    · split at hline
      · simp_all
      · cases hline
  have hrows : (classifier true).rows .none (Text.lines source) = [
      some ⟨0, .declaration ⟨.classType, "A", none⟩⟩,
      some ⟨2, .declaration ⟨.method, "f", some ⟨"", true⟩⟩⟩, some ⟨4, .plain⟩,
      some ⟨2, .declaration ⟨.method, "g", some ⟨"", true⟩⟩⟩, some ⟨4, .plain⟩] := by
    cbv
  refine (comments_change_no_member true hlines (hinserted rfl rfl)).2 ?_
  rw [hrows]
  refine hinserted ?_ ?_
  · exact .of_next rfl (by decide)
  · refine .of_unnamed fun line row hline hrow hnamed => ?_
    have hlast : line = 4 := by
      have := hrow.lt_length
      simp only [List.length_cons, List.length_nil] at this
      omega
    subst hlast
    cases hrow
    exact hnamed.1 rfl

/-- At the margin, a comment in front of the only method ends the class. -/
theorem comment_at_margin_ends_class :
    let source := "class A:\n  def f():\n    x\n"
    let commented := "class A:\n# note\n  def f():\n    x\n"
    Text.lines commented
        = weave (fun number => if number = 1 then ["# note".toList] else []) 0 (Text.lines source)
      ∧ IsComment "# note".toList
      ∧ (members true commented).mapEntries (Entry.placed fun _ => 0)
          ≠ (members true source).mapEntries (Entry.placed fun _ => 0) := by
  intro source commented
  refine ⟨by decide, rfl, fun hsame => ?_⟩
  have hlength := congrArg List.length hsame
  rw [Forest.mapEntries_eq_map, Forest.mapEntries_eq_map, List.length_map, List.length_map]
    at hlength
  have hcommented : (members true commented).length = 2 := by cbv
  have hsource : (members true source).length = 1 := by cbv
  omega

end Python

end SourceOutline
