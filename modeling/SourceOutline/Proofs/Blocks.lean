/-
The blocks of a text, in the order in which they end.

The scan gives the blocks as it closes them, and a container that no line declares takes its
lines from the first one that was closed under its name. Which one that is can be told from the
lines: one block ends before another if it lies in it, or is over before the other one begins
(`EndsFirst`).

The blocks closed so far, the first one first, and behind them the open ones, the innermost
first, make up one list (`State.openings`). To close blocks leaves this list as it is, because
the innermost ones are closed first, and a block that is opened goes in between. So each block of
the list ends before all those behind it, and at the end of the text the list is what the scan
gives.
-/
import SourceOutline.Proofs.Indentation

set_option autoImplicit false

namespace SourceOutline

/-! ## Segments -/

theorem Text.splitAt_eq_singleton {cut : Char → Bool} {cs : List Char}
    (h : ∀ c ∈ cs, cut c = false) : Text.splitAt cut cs = [cs] := by
  induction cs with
  | nil => rfl
  | cons c cs ih =>
    obtain ⟨hc, hcs⟩ := List.forall_mem_cons.1 h
    rw [Text.splitAt, if_neg (by simp [hc]), ih hcs]

theorem Text.splitAt_append_cons {cut : Char → Bool} {mark : Char} (hmark : cut mark = true)
    (first second : List Char) :
    Text.splitAt cut (first ++ mark :: second)
      = Text.splitAt cut first ++ Text.splitAt cut second := by
  induction first with
  | nil =>
    have hnil : Text.splitAt cut [] = [[]] := rfl
    rw [List.nil_append, hnil, Text.splitAt, if_pos hmark, List.singleton_append]
  | cons c first ih =>
    rw [List.cons_append, Text.splitAt, Text.splitAt, ih]
    split
    · rfl
    · obtain ⟨piece, pieces, hpieces⟩ := List.exists_cons_of_ne_nil (Text.splitAt_ne_nil cut first)
      rw [hpieces]
      rfl

theorem Text.forall_mem_splitAt (cut : Char → Bool) (cs : List Char) :
    ∀ piece ∈ Text.splitAt cut cs, ∀ c ∈ piece, cut c = false := by
  induction cs with
  | nil => simp [Text.splitAt]
  | cons c cs ih =>
    rw [Text.splitAt]
    split
    · exact List.forall_mem_cons.2 ⟨List.forall_mem_nil _, ih⟩
    · rename_i hc
      have hcut : cut c = false := Bool.eq_false_iff.2 hc
      split
      · simpa using hcut
      · rename_i piece pieces hpieces
        rw [hpieces] at ih
        obtain ⟨hpiece, hrest⟩ := List.forall_mem_cons.1 ih
        exact List.forall_mem_cons.2 ⟨List.forall_mem_cons.2 ⟨hcut, hpiece⟩, hrest⟩

namespace LineScan

/-- A name whose segments have no full stop. -/
def Dotless (name : QualifiedName) : Prop := ∀ segment ∈ name, '.' ∉ segment.toList

theorem dotless_segmentsOf (name : String) : Dotless (segmentsOf name) := by
  intro segment hsegment hdot
  obtain ⟨piece, hpiece, rfl⟩ := List.mem_map.1 hsegment
  rw [String.toList_ofList] at hdot
  have huncut := Text.forall_mem_splitAt _ _ piece hpiece '.' hdot
  exact absurd huncut (by decide)

theorem segmentsOf_append (first second : String) :
    segmentsOf (first ++ "." ++ second) = segmentsOf first ++ segmentsOf second := by
  have hlist : (first ++ "." ++ second).toList = first.toList ++ '.' :: second.toList := by
    rw [String.toList_append, String.toList_append, List.append_assoc]
    rfl
  rw [segmentsOf, hlist, Text.splitAt_append_cons rfl, List.map_append, segmentsOf, segmentsOf]

theorem Dotless.append {first second : QualifiedName} (h : Dotless first)
    (h' : Dotless second) : Dotless (first ++ second) :=
  List.forall_mem_append.2 ⟨h, h'⟩

/-- The segments of a name that was put together of segments. -/
theorem segmentsOf_joinTexts {name : QualifiedName} (hne : name ≠ []) (h : Dotless name) :
    segmentsOf (joinTexts "." name) = name := by
  have hsegment : ∀ {segment : String}, '.' ∉ segment.toList → segmentsOf segment = [segment] := by
    intro segment hdot
    have hcut : ∀ c ∈ segment.toList, (c == '.') = false := by
      intro c hc
      rw [beq_eq_false_iff_ne]
      rintro rfl
      exact hdot hc
    rw [segmentsOf, Text.splitAt_eq_singleton hcut, List.map_singleton, String.ofList_toList]
  induction name with
  | nil => exact absurd rfl hne
  | cons segment rest ih =>
    obtain ⟨hdot, hrest⟩ := List.forall_mem_cons.1 h
    cases rest with
    | nil => exact hsegment hdot
    | cons next rest =>
      rw [joinTexts_cons_cons, segmentsOf_append, hsegment hdot,
        ih (List.cons_ne_nil next rest) hrest, List.singleton_append]

/-- The qualifiers of a name begin with the segments of another name if it goes on with a full stop
behind that. -/
theorem prefix_dropLast_segmentsOf_iff {outer name : String} :
    segmentsOf outer <+: (segmentsOf name).dropLast ↔ ∃ rest, name = outer ++ "." ++ rest := by
  constructor
  · rintro ⟨rest, hrest⟩
    -- The last segment of the name stands behind the qualifiers in any case.
    have hname := dropLast_append_getLast? (segmentsOf_ne_nil name)
    rw [← hrest, List.append_assoc] at hname
    refine ⟨joinTexts "." (rest ++ [(segmentsOf name).getLast?.getD ""]), ?_⟩
    calc
      name = joinTexts "." (segmentsOf name) := (joinTexts_segmentsOf name).symm
      _ = joinTexts "."
          (segmentsOf outer ++ (rest ++ [(segmentsOf name).getLast?.getD ""])) := by rw [hname]
      _ = outer ++ "." ++ joinTexts "." (rest ++ [(segmentsOf name).getLast?.getD ""]) := by
        rw [joinTexts_append "." (segmentsOf_ne_nil outer) (by simp), joinTexts_segmentsOf]
  · rintro ⟨rest, rfl⟩
    rw [segmentsOf_append, List.dropLast_append_of_ne_nil (segmentsOf_ne_nil rest)]
    exact List.prefix_append _ _

variable {σ : Type} {rows : List (Option Row)}

theorem Names.eq_segmentsOf {line : Nat} {name qualified : String} {segments : QualifiedName}
    (h : Names rows line name segments) (hdotless : Dotless segments)
    (hqualified : QualifiedAs rows line name qualified) : segments = segmentsOf qualified := by
  rw [hqualified.unique h.qualified, segmentsOf_joinTexts h.ne_nil hdotless]

/-! ## The order of ends -/

/-- The block of one line ends before that of another: it lies in it, or it is over before the
other one begins. -/
def EndsFirst (rows : List (Option Row)) (line other : Nat) : Prop :=
  Surrounds rows other line ∨ line < other ∧ ¬Surrounds rows line other

theorem EndsFirst.asymm {line other : Nat} (h : EndsFirst rows line other) :
    ¬EndsFirst rows other line := by
  rintro (hback | ⟨hlt, hback⟩)
  · rcases h with hin | ⟨-, hout⟩
    · have := hin.lt
      have := hback.lt
      omega
    · exact hout hback
  · rcases h with hin | ⟨hlt', -⟩
    · exact hback hin
    · omega

theorem EndsFirst.irrefl {line : Nat} : ¬EndsFirst rows line line := fun h => h.asymm h

/-! ## Blocks in the order of their ends -/

/-- The line a block begins on, with the name it has for what is declared in it. -/
structure Opening where
  line : Nat
  scope : Option QualifiedName

def OpenBlock.opening (block : OpenBlock) : Opening := ⟨block.first, block.scope⟩

def Block.opening (block : Block) : Opening := ⟨block.first, block.scope⟩

/-- The blocks that are closed and behind them those that are open. -/
def State.openings (state : State σ) : List Opening :=
  state.closed.reverse.map Block.opening ++ state.opened.map OpenBlock.opening

theorem State.openings_closeFrom (indent : Nat) (state : State σ) :
    (state.closeFrom indent).openings = state.openings := by
  have hclose : ∀ last : Nat, Block.opening ∘ OpenBlock.close last = OpenBlock.opening :=
    fun _ => rfl
  -- What is closed goes behind the closed blocks, innermost first, which is where it stood.
  unfold State.openings State.closeFrom
  dsimp only
  rw [List.reverse_append, List.reverse_reverse, List.map_append, List.map_map, hclose,
    List.append_assoc, ← List.map_append, List.takeWhile_append_dropWhile]

/-- What a block is known for, told from its line. -/
structure Opening.Stands (rows : List (Option Row)) (opening : Opening) : Prop where
  row : ∃ row, RowAt rows opening.line row ∧ row.kind ≠ .skip
    ∧ Option.Rel (Names rows opening.line) row.kind.blockName? opening.scope
  dotless : ∀ name ∈ opening.scope, Dotless name

/-- Blocks of earlier lines, in the order of their ends. -/
structure InOrder (rows : List (Option Row)) (stop : Nat) (openings : List Opening) : Prop where
  order : openings.Pairwise fun earlier later => EndsFirst rows earlier.line later.line
  before : ∀ opening ∈ openings, opening.line < stop
  stands : ∀ opening ∈ openings, opening.Stands rows

theorem InOrder.mono {stop stop' : Nat} {openings : List Opening} (h : InOrder rows stop openings)
    (hle : stop ≤ stop') : InOrder rows stop' openings :=
  ⟨h.order, fun opening hopening => Nat.lt_of_lt_of_le (h.before opening hopening) hle, h.stands⟩

/-- **A block that is opened** ends before the open blocks, and after those that are closed. -/
theorem InOrder.push {line : Nat} {state : State σ} {scope : Option QualifiedName}
    (h : InOrder rows line state.openings)
    (hstacked : Stacked rows (Surrounds rows · line) state.opened)
    (hstands : Opening.Stands rows ⟨line, scope⟩) :
    InOrder rows (line + 1) (state.closed.reverse.map Block.opening
      ++ ⟨line, scope⟩ :: state.opened.map OpenBlock.opening) := by
  obtain ⟨hclosed, hopened, hacross⟩ := List.pairwise_append.1 h.order
  have hmem : ∀ opening, opening ∈ state.closed.reverse.map Block.opening
      ++ (⟨line, scope⟩ : Opening) :: state.opened.map OpenBlock.opening →
      opening = ⟨line, scope⟩ ∨ opening ∈ state.openings := by
    intro opening hopening
    simpa [State.openings, or_left_comm] using hopening
  refine ⟨List.pairwise_append.2 ⟨hclosed, List.pairwise_cons.2 ⟨?_, hopened⟩, ?_⟩, ?_, ?_⟩
  · intro opening hopening
    obtain ⟨block, hblock, rfl⟩ := List.mem_map.1 hopening
    exact .inl ((hstacked.opens block.first).2 ⟨block, hblock, rfl⟩)
  · intro earlier hearlier later hlater
    rcases List.mem_cons.1 hlater with rfl | hlater
    · -- If the line were in a closed block, that one would be open too.
      refine .inr ⟨h.before earlier (List.mem_append_left _ hearlier), fun hsurrounds => ?_⟩
      obtain ⟨block, hblock, hline⟩ := (hstacked.opens earlier.line).1 hsurrounds
      have hends := hacross earlier hearlier _ (List.mem_map_of_mem hblock)
      rw [← hline] at hends
      exact hends.irrefl
    · exact hacross earlier hearlier later hlater
  · intro opening hopening
    rcases hmem opening hopening with rfl | hold
    · exact Nat.lt_succ_self line
    · exact Nat.lt_succ_of_lt (h.before opening hold)
  · intro opening hopening
    rcases hmem opening hopening with rfl | hold
    · exact hstands
    · exact h.stands opening hold

/-- The scope of a line is that of an open block. -/
theorem InOrder.dotless_scope {stop : Nat} {state : State σ}
    (h : InOrder rows stop state.openings) : Dotless state.scope := by
  unfold State.scope
  cases hopened : state.opened with
  | nil => exact List.forall_mem_nil _
  | cons block outer =>
    have hmem : block.opening ∈ state.openings := by
      rw [State.openings, hopened]
      exact List.mem_append_right _ List.mem_cons_self
    change Dotless (block.scope.getD [])
    cases hscope : block.scope with
    | none => exact List.forall_mem_nil _
    | some name => exact (h.stands _ hmem).dotless name hscope

/-! ## The scan -/

/-- What a line adds to the blocks that are left open. -/
theorem State.openings_read (classifier : Classifier σ) (state : State σ) (number : Nat)
    {line : List Char} (hline : Text.isBlankLine line = false) :
    let kind := (classifier.step state.memory line).1
    let closed := state.closeFrom (Text.indent line)
    (state.read classifier number line).openings
      = if kind = .skip then closed.openings
        else closed.closed.reverse.map Block.opening
          ++ ⟨number, kind.blockName?.map fun name => closed.scope ++ segmentsOf name⟩
            :: closed.opened.map OpenBlock.opening := by
  dsimp only
  have hmemory : (state.closeFrom (Text.indent line)).memory = state.memory := rfl
  rw [← hmemory, State.read, if_neg (by simp [hline])]
  dsimp only
  generalize state.closeFrom (Text.indent line) = closed
  cases hkind : (classifier.step closed.memory line).1 with
  | skip => rfl
  | plain => rfl
  | scope name => rfl
  | declaration declaration =>
    -- A container gives its name to the block, and any other declaration gives none.
    rw [LineKind.blockName?]
    by_cases hcontainer : declaration.kind.isContainer = true
    · simp only [hcontainer, if_true]
      rfl
    · simp only [hcontainer]
      rfl

/-- A line adds declarations in the scope it stands in. -/
theorem State.of_mem_found_read {classifier : Classifier σ} {state : State σ} {number : Nat}
    {line : List Char} {found : Found} (h : found ∈ (state.read classifier number line).found) :
    found ∈ state.found
      ∨ ∃ name, found.name = (state.closeFrom (Text.indent line)).scope ++ segmentsOf name := by
  rw [State.read] at h
  split at h
  · exact .inl h
  · dsimp only at h
    split at h
    · exact .inl h
    · exact .inl h
    · exact .inl h
    · rcases List.mem_cons.1 h with rfl | h
      · exact .inr ⟨_, rfl⟩
      · exact .inl h

/-- What a scan knows of names and of the order of blocks in front of a line. -/
structure Keeps (rows : List (Option Row)) (line : Nat) (state : State σ) : Prop where
  reads : Reads rows line (OpenBefore rows · line) state
  openings : InOrder rows line state.openings
  dotless : ∀ found ∈ state.found, Dotless found.name

/-- **One line.** -/
theorem Keeps.read {classifier : Classifier σ} {number : Nat} {line : List Char}
    {state : State σ} (h : Keeps rows number state)
    (hrow : rows[number]? = some (if Text.isBlankLine line then none
      else some ⟨Text.indent line, (classifier.step state.memory line).1⟩)) :
    Keeps rows (number + 1) (state.read classifier number line) := by
  have hinorder : InOrder rows number (state.closeFrom (Text.indent line)).openings := by
    rw [State.openings_closeFrom]
    exact h.openings
  have hscope := hinorder.dotless_scope
  refine ⟨h.reads.read hrow, ?_, ?_⟩
  · -- Only a line that is neither blank nor skipped opens a block.
    cases hblank : Text.isBlankLine line with
    | true =>
      rw [State.read, if_pos hblank]
      exact h.openings.mono (Nat.le_succ number)
    | false =>
      rw [if_neg (by simp [hblank])] at hrow
      have hat : RowAt rows number ⟨Text.indent line, (classifier.step state.memory line).1⟩ := hrow
      have hstacked := (h.reads.closeFrom hat).stacked
      rw [State.openings_read classifier state number hblank]
      split
      · exact hinorder.mono (Nat.le_succ number)
      · rename_i hkind
        refine hinorder.push hstacked ⟨⟨_, hat, hkind, ?_⟩, ?_⟩
        · dsimp only
          cases LineKind.blockName? _ with
          | none => exact .none
          | some name => exact .some (hstacked.names name)
        · intro name hname
          obtain ⟨own, -, rfl⟩ := Option.map_eq_some_iff.1 hname
          exact hscope.append (dotless_segmentsOf own)
  · intro found hfound
    rcases State.of_mem_found_read hfound with hold | ⟨name, hname⟩
    · exact h.dotless found hold
    · rw [hname]
      exact hscope.append (dotless_segmentsOf name)

/-- **The scan of a text.** Its blocks come in the order of their ends. -/
theorem inOrder_scan (classifier : Classifier σ) (source : String) :
    InOrder (classifier.rows classifier.initial (Text.lines source))
        (classifier.rows classifier.initial (Text.lines source)).length
        ((scan classifier source).2.map Block.opening)
      ∧ ∀ found ∈ (scan classifier source).1, Dotless found.name := by
  generalize hrows : classifier.rows classifier.initial (Text.lines source) = rows
  have hstart : Keeps rows 0 ({ memory := classifier.initial } : State σ) :=
    ⟨.start, ⟨.nil, List.forall_mem_nil _, List.forall_mem_nil _⟩, List.forall_mem_nil _⟩
  have hall := State.readAll_source_keeps (motive := Keeps rows) hrows
    (fun _ _ _ hkeeps hrow => hkeeps.read hrow) hstart
  rw [scan]
  generalize State.readAll classifier { memory := classifier.initial }
    (Text.numbered 0 (Text.lines source)) = state at hall
  have hopened : state.closeAll.opened = [] := by
    simp [State.closeAll, State.closeFrom, List.dropWhile_eq_nil_iff.2]
  have hopenings : state.closeAll.openings = state.openings := state.openings_closeFrom 0
  rw [State.openings, hopened, List.map_nil, List.append_nil] at hopenings
  dsimp only
  rw [hopenings]
  exact ⟨hall.openings, fun found hfound => hall.dotless found (List.mem_reverse.1 hfound)⟩

/-! ## What is found -/

/-- What is found, without the name it has from the blocks around it. -/
def Found.declared (found : Found) : DeclarationLine :=
  ⟨found.line, found.column, found.declaration⟩

theorem FoundOn.eq_declared {declared : DeclarationLine} {found : Found}
    (h : FoundOn rows declared found) : declared = found.declared := by
  obtain ⟨line, column, declaration⟩ := declared
  unfold Found.declared
  rw [h.line, h.column, h.declaration]

theorem ByIndentation.map_declared {found : List Found} {blocks : List Block}
    (h : ByIndentation rows found blocks) : found.map Found.declared = declarationLines rows := by
  rw [← List.forall₂_eq_eq_eq, List.forall₂_map_left_iff]
  exact h.found.flip.imp fun _ _ hfound => hfound.eq_declared.symm

theorem ByIndentation.foundOn {found : List Found} {blocks : List Block}
    (h : ByIndentation rows found blocks) :
    ∀ declared ∈ found, FoundOn rows declared.declared declared := by
  have hfound := h.found
  rw [← h.map_declared, List.forall₂_map_left_iff, List.forall₂_same] at hfound
  exact hfound

/-- What a line declares is found. -/
theorem ByIndentation.exists_found {found : List Found} {blocks : List Block}
    (h : ByIndentation rows found blocks) {line indent : Nat} {declaration : Declaration}
    (hrow : RowAt rows line ⟨indent, .declaration declaration⟩) :
    ∃ declared ∈ found, declared.declared = ⟨line, indent, declaration⟩ := by
  have hmem : (line, some (Row.mk indent (.declaration declaration))) ∈ Text.numbered 0 rows :=
    Text.mem_numbered.2 ⟨Nat.zero_le _, hrow⟩
  have hdeclared : (⟨line, indent, declaration⟩ : DeclarationLine) ∈ declarationLines rows :=
    List.mem_filterMap.2 ⟨_, hmem, rfl⟩
  rw [← h.map_declared] at hdeclared
  exact List.mem_map.1 hdeclared

/-- Declarations are found on one line after the other. -/
theorem ByIndentation.ascending {found : List Found} {blocks : List Block}
    (h : ByIndentation rows found blocks) :
    found.Pairwise fun earlier later => earlier.line < later.line := by
  have hlines : (declarationLines rows).Pairwise
      fun earlier later => earlier.line < later.line := by
    unfold declarationLines
    refine List.Pairwise.filterMap declarationOf? ?_ (Text.pairwise_numbered 0 rows).1
    intro first second hlt earlier hearlier later hlater
    have hline : ∀ {row : Nat × Option Row} {declared : DeclarationLine},
        declarationOf? row = some declared → declared.line = row.1 := by
      intro row declared hrow
      unfold declarationOf? at hrow
      split at hrow
      · cases hrow
        rfl
      · cases hrow
    rw [hline hearlier, hline hlater]
    exact hlt
  rw [← h.map_declared, List.pairwise_map] at hlines
  exact hlines

/-! ## The first block of a name -/

/-- A line gives its block this name, with that of the block around it in front. -/
def Called (rows : List (Option Row)) (line : Nat) (qualified : String) : Prop :=
  ∃ row name, RowAt rows line row ∧ row.kind.blockName? = some name
    ∧ QualifiedAs rows line name qualified

/-- Of the blocks of this name, that of a line ends first. -/
structure FirstCalled (rows : List (Option Row)) (line : Nat) (qualified : String) : Prop where
  called : Called rows line qualified
  first : ∀ other, Called rows other qualified → other ≠ line → EndsFirst rows line other

theorem FirstCalled.unique {line line' : Nat} {qualified : String}
    (h : FirstCalled rows line qualified) (h' : FirstCalled rows line' qualified) :
    line = line' := by
  by_contra hne
  exact (h.first line' h'.called (Ne.symm hne)).asymm (h'.first line h.called hne)

section Spans

variable {found : List Found} {blocks : List Block} {stop : Nat}

/-- The name a line gives to its block is that of a block of the scan. -/
theorem exists_block_of_blockName? (hscan : ByIndentation rows found blocks)
    (horder : InOrder rows stop (blocks.map Block.opening)) {line : Nat} {row : Row} {name : String}
    (hrow : RowAt rows line row) (hname : row.kind.blockName? = some name) :
    ∃ block ∈ blocks, block.first = line
      ∧ ∃ segments, block.scope = some segments ∧ Names rows line name segments
        ∧ Dotless segments := by
  have hopens : row.kind ≠ .skip := by
    intro hskip
    rw [hskip] at hname
    cases hname
  obtain ⟨block, hblock, rfl⟩ := hscan.covered line row hrow hopens
  obtain ⟨⟨row', hrow', -, hscope⟩, hdotless⟩ := horder.stands _ (List.mem_map_of_mem hblock)
  cases hrow.unique hrow'
  change Option.Rel _ _ block.scope at hscope
  change ∀ name ∈ block.scope, _ at hdotless
  rw [hname] at hscope
  generalize hsegments : block.scope = scope at hscope hdotless
  cases hscope with
  | some hnames => exact ⟨block, hblock, rfl, _, hsegments, hnames, hdotless _ rfl⟩

/-- A block of the scan that has a name has it from its line. -/
theorem exists_names_of_scope (horder : InOrder rows stop (blocks.map Block.opening))
    {block : Block} (hblock : block ∈ blocks) {segments : QualifiedName}
    (hsegments : block.scope = some segments) :
    ∃ row name, RowAt rows block.first row ∧ row.kind.blockName? = some name
      ∧ Names rows block.first name segments ∧ Dotless segments := by
  obtain ⟨⟨row, hrow, -, hscope⟩, hdotless⟩ := horder.stands _ (List.mem_map_of_mem hblock)
  change Option.Rel _ _ block.scope at hscope
  rw [hsegments] at hscope
  generalize hname : row.kind.blockName? = name at hscope
  cases hscope with
  | some hnames => exact ⟨row, _, hrow, hname, hnames, hdotless segments hsegments⟩

/-- A line that gives a name to its block has a qualified name. -/
theorem exists_qualifiedAs (hscan : ByIndentation rows found blocks)
    (horder : InOrder rows stop (blocks.map Block.opening)) {line : Nat} {row : Row} {name : String}
    (hrow : RowAt rows line row) (hname : row.kind.blockName? = some name) :
    ∃ qualified, QualifiedAs rows line name qualified := by
  obtain ⟨_, -, -, segments, -, hnames, -⟩ := exists_block_of_blockName? hscan horder hrow hname
  exact ⟨_, hnames.qualified⟩

/-- The blocks that a scan gives a name to are those whose lines do. -/
theorem called_iff (hscan : ByIndentation rows found blocks)
    (horder : InOrder rows stop (blocks.map Block.opening)) {line : Nat} {qualified : String} :
    Called rows line qualified
      ↔ ∃ block ∈ blocks, block.first = line ∧ block.scope = some (segmentsOf qualified) := by
  constructor
  · rintro ⟨row, name, hrow, hname, hqualified⟩
    obtain ⟨block, hblock, hline, segments, hscope, hnames, hdotless⟩ :=
      exists_block_of_blockName? hscan horder hrow hname
    rw [hnames.eq_segmentsOf hdotless hqualified] at hscope
    exact ⟨block, hblock, hline, hscope⟩
  · rintro ⟨block, hblock, rfl, hscope⟩
    obtain ⟨row, name, hrow, hname, hnames, -⟩ := exists_names_of_scope horder hblock hscope
    have hqualified := hnames.qualified
    rw [joinTexts_segmentsOf] at hqualified
    exact ⟨row, name, hrow, hname, hqualified⟩

/-- Only names of blocks have lines, and these have segments without full stops. -/
theorem segmentsOf_of_spanOf? (horder : InOrder rows stop (blocks.map Block.opening))
    {name : QualifiedName} {span : Nat × Nat} (h : spanOf? blocks name = some span) :
    ∃ qualified, name = segmentsOf qualified := by
  obtain ⟨block, hfind, -⟩ := Option.map_eq_some_iff.1 h
  have hscope : block.scope = some name := by simpa using List.find?_some hfind
  obtain ⟨_, _, -, -, hnames, hdotless⟩ :=
    exists_names_of_scope horder (List.mem_of_find?_eq_some hfind) hscope
  exact ⟨_, (segmentsOf_joinTexts hnames.ne_nil hdotless).symm⟩

/-- **The lines of a name** are those of the block of that name which ends first. -/
theorem firstCalled_of_spanOf? (hscan : ByIndentation rows found blocks)
    (horder : InOrder rows stop (blocks.map Block.opening)) {qualified : String} {first last : Nat}
    (h : spanOf? blocks (segmentsOf qualified) = some (first, last)) :
    FirstCalled rows first qualified ∧ EndsAt rows first last := by
  obtain ⟨block, hfind, hspan⟩ := Option.map_eq_some_iff.1 h
  cases hspan
  obtain ⟨hname, before, behind, hsplit, hbefore⟩ := List.find?_eq_some_iff_append.1 hfind
  have hmem : block ∈ blocks := List.mem_of_find?_eq_some hfind
  refine ⟨⟨(called_iff hscan horder).2 ⟨block, hmem, rfl, eq_of_beq hname⟩, ?_⟩,
    hscan.ended block hmem⟩
  intro other hother hne
  obtain ⟨block', hblock', rfl, hscope⟩ := (called_iff hscan horder).1 hother
  rw [hsplit] at hblock'
  -- In front of the block that was taken none has its name, and those behind it end later.
  rcases List.mem_append.1 hblock' with hearlier | hlater
  · have hnot := hbefore block' hearlier
    rw [hscope, beq_self_eq_true] at hnot
    cases hnot
  · rcases List.mem_cons.1 hlater with rfl | hlater
    · exact absurd rfl hne
    · have hpairs := horder.order
      rw [hsplit, List.map_append, List.map_cons] at hpairs
      have hbehind := (List.pairwise_cons.1 (List.pairwise_append.1 hpairs).2.1).1
      exact hbehind _ (List.mem_map_of_mem hlater)

theorem not_called_of_spanOf? (hscan : ByIndentation rows found blocks)
    (horder : InOrder rows stop (blocks.map Block.opening)) {qualified : String}
    (h : spanOf? blocks (segmentsOf qualified) = none) (line : Nat) :
    ¬Called rows line qualified := by
  intro hcalled
  obtain ⟨block, hblock, -, hscope⟩ := (called_iff hscan horder).1 hcalled
  have hnone := List.find?_eq_none.1 (Option.map_eq_none_iff.1 h) block hblock
  exact hnone (beq_iff_eq.2 hscope)

end Spans

end LineScan

end SourceOutline
