/-
Which line closes which region.

The scan reads the lines of a text once, with a stack of the regions that are open. Here
the same is said without a stack, by a grammar of lines. Its three layers are the three
things that can happen to a closing line:

* In `Closed` lines every region is closed where it was opened: between the two lines of
  a region stand closed lines again, one level deeper.
* `LeftOpen` lines may open regions that no line closes. What follows such an opening
  line is inside of it, and a marker of its own closes it at the end of the text.
* In `Marks` a closing line may stand where no region is open. It leaves no marker.

Each layer carries along the markers its lines amount to, so the grammar gives the names,
the depths and the lines of all markers at once. Every list of lines has one reading by
the grammar (`exists_marks`), and the scan is that reading (`Marks.eq_scanLines`). That the
result is balanced, and which openings it has, follows by induction on the grammar.
-/
import SourceOutline.Proofs.Scan
import SourceOutline.Region.Placement

set_option autoImplicit false

namespace SourceOutline

/-! ## Regions inside one another -/

/-- Regions side by side with `depth` others around them, each with the regions inside it.
Both markers of a region carry its name and the number of regions around it. -/
inductive RegionsAt : Nat → List Member → Prop where
  | nil {depth : Nat} : RegionsAt depth []
  | region {depth first firstColumn last lastColumn : Nat} {name : String}
      {inner rest : List Member}
      (hinner : RegionsAt (depth + 1) inner) (hrest : RegionsAt depth rest) :
      RegionsAt depth (.ofMarker ⟨.start, name, depth⟩ first firstColumn :: inner
        ++ .ofMarker ⟨.stop, name, depth⟩ last lastColumn :: rest)

theorem RegionsAt.append {depth : Nat} {first second : List Member} (h : RegionsAt depth first)
    (h' : RegionsAt depth second) : RegionsAt depth (first ++ second) := by
  induction h with
  | nil => exact h'
  | region hinner hrest _ ihrest =>
    simp only [List.append_assoc, List.cons_append]
    exact .region hinner (ihrest h')

/-- Whether a member opens a region. -/
def Member.opensRegion (member : Member) : Bool :=
  match member.entry.region with
  | some marker => marker.boundary == .start
  | none => false

/-- As many markers close a region as open one. -/
theorem RegionsAt.countP_eq {depth : Nat} {markers : List Member} (h : RegionsAt depth markers) :
    markers.countP Member.closesRegion = markers.countP Member.opensRegion := by
  induction h with
  | nil => rfl
  | region _ _ ihinner ihrest =>
    have hopens : ∀ name depth line column,
        (Member.ofMarker ⟨.start, name, depth⟩ line column).opensRegion = true
          ∧ (Member.ofMarker ⟨.start, name, depth⟩ line column).closesRegion = false :=
      fun _ _ _ _ => ⟨rfl, rfl⟩
    have hcloses : ∀ name depth line column,
        (Member.ofMarker ⟨.stop, name, depth⟩ line column).opensRegion = false
          ∧ (Member.ofMarker ⟨.stop, name, depth⟩ line column).closesRegion = true :=
      fun _ _ _ _ => ⟨rfl, rfl⟩
    simp only [List.countP_append, List.countP_cons, hopens, hcloses, ihinner, ihrest,
      Bool.false_eq_true, if_true, if_false]
    omega

/-- What an opening marker says: the name of the region, its line and its column. -/
def Member.opening? (member : Member) : Option (String × Nat × Nat) :=
  match member.entry.region with
  | some ⟨.start, name, _⟩ => some (name, member.startLine, member.entry.column)
  | _ => none

namespace MarkerStyle

variable {style : MarkerStyle}

/-! ## The grammar of lines -/

/-- The marker of a line that opens a region. -/
def startMarker (text : List Char) (depth : Nat) (line : Nat × List Char) : Member :=
  .ofMarker ⟨.start, String.ofList text, depth⟩ line.1 (Text.indent line.2)

/-- The marker of a line that closes the region of that text. -/
def stopMarker (text : List Char) (depth : Nat) (line : Nat × List Char) : Member :=
  .ofMarker ⟨.stop, String.ofList text, depth⟩ line.1 (Text.indent line.2)

/-- Lines in which every region is closed, with `depth` regions around them, and their
markers. -/
inductive Closed (style : MarkerStyle) : Nat → List (Nat × List Char) → List Member → Prop where
  | nil {depth : Nat} : Closed style depth [] []
  | plain {depth : Nat} {line : Nat × List Char} {rest : List (Nat × List Char)}
      {markers : List Member} (hline : style.read? line.2 = none)
      (hrest : Closed style depth rest markers) : Closed style depth (line :: rest) markers
  | region {depth : Nat} {first last : Nat × List Char} {text ignored : List Char}
      {inner rest : List (Nat × List Char)} {inside markers : List Member}
      (hfirst : style.read? first.2 = some (.start, text))
      (hinner : Closed style (depth + 1) inner inside)
      (hlast : style.read? last.2 = some (.stop, ignored))
      (hrest : Closed style depth rest markers) :
      Closed style depth (first :: inner ++ last :: rest)
        (startMarker text depth first :: inside ++ stopMarker text depth last :: markers)

/-- Lines that may open regions which they do not close. These are closed on the line
`last`, the innermost first. -/
inductive LeftOpen (style : MarkerStyle) (last : Nat) :
    Nat → List (Nat × List Char) → List Member → Prop where
  | closed {depth : Nat} {lines : List (Nat × List Char)} {markers : List Member}
      (hlines : Closed style depth lines markers) : LeftOpen style last depth lines markers
  | region {depth : Nat} {before rest : List (Nat × List Char)} {first : Nat × List Char}
      {text : List Char} {markers inside : List Member}
      (hbefore : Closed style depth before markers)
      (hfirst : style.read? first.2 = some (.start, text))
      (hrest : LeftOpen style last (depth + 1) rest inside) :
      LeftOpen style last depth (before ++ first :: rest)
        (markers ++ startMarker text depth first :: inside
          ++ [.ofMarker ⟨.stop, String.ofList text, depth⟩ last 0])

/-- All lines of a text that ends on the line `last`. A closing line where no region is open
leaves no marker. -/
inductive Marks (style : MarkerStyle) (last : Nat) :
    List (Nat × List Char) → List Member → Prop where
  | leftOpen {lines : List (Nat × List Char)} {markers : List Member}
      (hlines : LeftOpen style last 0 lines markers) : Marks style last lines markers
  | stray {before rest : List (Nat × List Char)} {line : Nat × List Char} {ignored : List Char}
      {markers others : List Member} (hbefore : Closed style 0 before markers)
      (hline : style.read? line.2 = some (.stop, ignored))
      (hrest : Marks style last rest others) :
      Marks style last (before ++ line :: rest) (markers ++ others)

theorem Closed.append {depth : Nat} {first second : List (Nat × List Char)}
    {markers others : List Member} (h : Closed style depth first markers)
    (h' : Closed style depth second others) :
    Closed style depth (first ++ second) (markers ++ others) := by
  induction h with
  | nil => exact h'
  | plain hline _ ih => exact .plain hline (ih h')
  | region hfirst hinner hlast _ _ ihrest =>
    simp only [List.append_assoc, List.cons_append]
    exact .region hfirst hinner hlast (ihrest h')

theorem LeftOpen.prepend {last depth : Nat} {first second : List (Nat × List Char)}
    {markers others : List Member} (h : Closed style depth first markers)
    (h' : LeftOpen style last depth second others) :
    LeftOpen style last depth (first ++ second) (markers ++ others) := by
  cases h' with
  | closed hlines => exact .closed (h.append hlines)
  | region hbefore hfirst hrest =>
    rw [← List.append_assoc, ← List.append_assoc, ← List.append_assoc]
    exact .region (h.append hbefore) hfirst hrest

/-! ## Every text has a reading -/

/-- Lines are read up to a closing line that closes nothing of theirs, or to the end. -/
theorem exists_closed_or_leftOpen (style : MarkerStyle) (last depth : Nat)
    (lines : List (Nat × List Char)) :
    (∃ before line rest ignored markers, lines = before ++ line :: rest
      ∧ Closed style depth before markers ∧ style.read? line.2 = some (.stop, ignored))
    ∨ ∃ markers, LeftOpen style last depth lines markers := by
  -- A region may be followed by more lines of the same depth, so the induction is on the length.
  induction hlength : lines.length using Nat.strongRecOn generalizing depth lines with
  | ind length ih =>
    cases lines with
    | nil => exact .inr ⟨[], .closed .nil⟩
    | cons line rest =>
      rw [List.length_cons] at hlength
      -- Closed lines in front change nothing about how the reading of the others ends.
      have hprepend : ∀ (back : List (Nat × List Char)) {front : List (Nat × List Char)}
          {markers : List Member}, Closed style depth front markers → back.length < length →
          line :: rest = front ++ back →
          (∃ before stop after ignored markers, line :: rest = before ++ stop :: after
            ∧ Closed style depth before markers ∧ style.read? stop.2 = some (.stop, ignored))
          ∨ ∃ markers, LeftOpen style last depth (line :: rest) markers := by
        intro back front markers hfront hlt heq
        rw [heq]
        rcases ih back.length hlt depth back rfl with
          ⟨before, stop, after, ignored, others, rfl, hbefore, hstop⟩ | ⟨others, hopen⟩
        · left
          exact ⟨front ++ before, stop, after, ignored, markers ++ others, by simp,
            hfront.append hbefore, hstop⟩
        · right
          exact ⟨markers ++ others, hopen.prepend hfront⟩
      cases hread : style.read? line.2 with
      | none => exact hprepend rest (.plain hread .nil) (by omega) rfl
      | some read =>
        obtain ⟨boundary, text⟩ := read
        cases boundary with
        | stop =>
          left
          exact ⟨[], line, rest, text, [], rfl, .nil, hread⟩
        | start =>
          rcases ih rest.length (by omega) (depth + 1) rest rfl with
            ⟨inner, stop, after, ignored, inside, rfl, hinner, hstop⟩ | ⟨inside, hopen⟩
          · -- The region is closed, and the reading goes on behind it.
            rw [List.length_append, List.length_cons] at hlength
            exact hprepend after (.region hread hinner hstop .nil) (by omega) (by simp)
          · right
            exact ⟨_, .region .nil hread hopen⟩

theorem exists_marks (style : MarkerStyle) (last : Nat) (lines : List (Nat × List Char)) :
    ∃ markers, Marks style last lines markers := by
  induction hlength : lines.length using Nat.strongRecOn generalizing lines with
  | ind length ih =>
    rcases exists_closed_or_leftOpen style last 0 lines with
      ⟨before, line, rest, ignored, markers, rfl, hbefore, hline⟩ | ⟨markers, hopen⟩
    · rw [List.length_append, List.length_cons] at hlength
      obtain ⟨others, hrest⟩ := ih rest.length (by omega) rest rfl
      exact ⟨markers ++ others, .stray hbefore hline hrest⟩
    · exact ⟨markers, .leftOpen hopen⟩

/-! ## The scan is the reading -/

/-- The number of the last line, or the one given when there is none. -/
def lastNumber (number : Nat) : List (Nat × List Char) → Nat
  | [] => number
  | line :: rest => lastNumber line.1 rest

theorem lastNumber_append (number : Nat) (first second : List (Nat × List Char)) :
    lastNumber number (first ++ second) = lastNumber (lastNumber number first) second := by
  induction first generalizing number with
  | nil => rfl
  | cons line rest ih => exact ih line.1

theorem scanLines_plain {line : Nat × List Char} (h : style.read? line.2 = none)
    (opened : List String) (number : Nat) (rest : List (Nat × List Char)) :
    style.scanLines opened number (line :: rest) = style.scanLines opened line.1 rest := by
  obtain ⟨number', text⟩ := line
  simp only [scanLines, h]

theorem scanLines_start {line : Nat × List Char} {text : List Char}
    (h : style.read? line.2 = some (.start, text)) (opened : List String) (number : Nat)
    (rest : List (Nat × List Char)) :
    style.scanLines opened number (line :: rest)
      = startMarker text opened.length line
        :: style.scanLines (String.ofList text :: opened) line.1 rest := by
  obtain ⟨number', text'⟩ := line
  simp only [scanLines, h]
  rfl

theorem scanLines_stop {line : Nat × List Char} {ignored : List Char}
    (h : style.read? line.2 = some (.stop, ignored)) (text : List Char) (outer : List String)
    (number : Nat) (rest : List (Nat × List Char)) :
    style.scanLines (String.ofList text :: outer) number (line :: rest)
      = stopMarker text outer.length line :: style.scanLines outer line.1 rest := by
  obtain ⟨number', text'⟩ := line
  simp only [scanLines, h]
  rfl

theorem scanLines_stray {line : Nat × List Char} {ignored : List Char}
    (h : style.read? line.2 = some (.stop, ignored)) (number : Nat)
    (rest : List (Nat × List Char)) :
    style.scanLines [] number (line :: rest) = style.scanLines [] line.1 rest := by
  obtain ⟨number', text'⟩ := line
  simp only [scanLines, h]

/-- Closed lines leave the stack as they find it. -/
theorem Closed.scanLines_append {depth : Nat} {lines : List (Nat × List Char)}
    {markers : List Member} (h : Closed style depth lines markers) {opened : List String}
    (hopened : opened.length = depth) (number : Nat) (rest : List (Nat × List Char)) :
    style.scanLines opened number (lines ++ rest)
      = markers ++ style.scanLines opened (lastNumber number lines) rest := by
  induction h generalizing opened number rest with
  | nil => rfl
  | plain hline _ ih =>
    rw [List.cons_append, scanLines_plain hline, ih hopened]
    rfl
  | @region depth first last text ignored inner more inside markers hfirst _ hlast _ ihinner ihmore =>
    subst hopened
    -- The name of the region lies on top of the stack as long as its inside is read.
    have hlength : (String.ofList text :: opened).length = opened.length + 1 := rfl
    have hinside := ihinner hlength first.1 (last :: more ++ rest)
    rw [List.append_assoc, List.cons_append, scanLines_start hfirst, hinside, List.cons_append,
      scanLines_stop hlast, ihmore rfl]
    simp [lastNumber, lastNumber_append]

theorem LeftOpen.scanLines_eq {last depth : Nat} {lines : List (Nat × List Char)}
    {markers : List Member} (h : LeftOpen style last depth lines markers) {opened : List String}
    (hopened : opened.length = depth) {number : Nat} (hlast : lastNumber number lines = last) :
    style.scanLines opened number lines = markers ++ closeAll last opened := by
  induction h generalizing opened number with
  | closed hlines =>
    have hscan := hlines.scanLines_append hopened number []
    rw [List.append_nil, hlast] at hscan
    exact hscan
  | @region depth before rest first text markers inside hbefore hfirst _ ih =>
    subst hopened
    rw [lastNumber_append] at hlast
    have hlength : (String.ofList text :: opened).length = opened.length + 1 := rfl
    have hlastRest : lastNumber first.1 rest = last := hlast
    have hrest := ih hlength hlastRest
    rw [hbefore.scanLines_append rfl, scanLines_start hfirst, hrest, closeAll]
    simp

theorem Marks.eq_scanLines {last : Nat} {lines : List (Nat × List Char)} {markers : List Member}
    (h : Marks style last lines markers) {number : Nat}
    (hlast : lastNumber number lines = last) : markers = style.scanLines [] number lines := by
  induction h generalizing number with
  | leftOpen hlines =>
    have hnone : ([] : List String).length = 0 := rfl
    have hscan := hlines.scanLines_eq hnone hlast
    rw [closeAll, List.append_nil] at hscan
    exact hscan.symm
  | stray hbefore hline _ ih =>
    rw [lastNumber_append] at hlast
    rw [hbefore.scanLines_append rfl, scanLines_stray hline, ← ih hlast]

/-! ## What the grammar gives -/

theorem Closed.regionsAt {depth : Nat} {lines : List (Nat × List Char)} {markers : List Member}
    (h : Closed style depth lines markers) : RegionsAt depth markers := by
  induction h with
  | nil => exact .nil
  | plain _ _ ih => exact ih
  | region _ _ _ _ ihinner ihrest => exact .region ihinner ihrest

theorem LeftOpen.regionsAt {last depth : Nat} {lines : List (Nat × List Char)}
    {markers : List Member} (h : LeftOpen style last depth lines markers) :
    RegionsAt depth markers := by
  induction h with
  | closed hlines => exact hlines.regionsAt
  | region hbefore _ _ ih =>
    rw [List.append_assoc]
    exact hbefore.regionsAt.append (.region ih .nil)

theorem Marks.regionsAt {last : Nat} {lines : List (Nat × List Char)} {markers : List Member}
    (h : Marks style last lines markers) : RegionsAt 0 markers := by
  induction h with
  | leftOpen hlines => exact hlines.regionsAt
  | stray hbefore _ _ ih => exact hbefore.regionsAt.append ih

/-- What a line says that opens a region: its name, the line and the column. -/
def opening? (style : MarkerStyle) (line : Nat × List Char) : Option (String × Nat × Nat) :=
  match style.read? line.2 with
  | some (.start, text) => some (String.ofList text, line.1, Text.indent line.2)
  | _ => none

theorem opening?_plain {line : Nat × List Char} (h : style.read? line.2 = none) :
    style.opening? line = none := by
  simp only [opening?, h]

theorem opening?_start {line : Nat × List Char} {text : List Char}
    (h : style.read? line.2 = some (.start, text)) (depth : Nat) :
    style.opening? line = (startMarker text depth line).opening? := by
  simp only [opening?, h]
  rfl

theorem opening?_stop {line : Nat × List Char} {ignored : List Char}
    (h : style.read? line.2 = some (.stop, ignored)) : style.opening? line = none := by
  simp only [opening?, h]

theorem opening?_ofMarker_stop (name : String) (depth line column : Nat) :
    (Member.ofMarker ⟨.stop, name, depth⟩ line column).opening? = none := rfl

theorem Closed.openings {depth : Nat} {lines : List (Nat × List Char)} {markers : List Member}
    (h : Closed style depth lines markers) :
    markers.filterMap Member.opening? = lines.filterMap style.opening? := by
  induction h with
  | nil => rfl
  | plain hline _ ih => rw [List.filterMap_cons_none (opening?_plain hline), ih]
  | @region depth first last text ignored inner rest inside markers hfirst _ hlast _ ihinner ihrest =>
    have hstop : (stopMarker text depth last).opening? = none := rfl
    simp only [List.cons_append, List.filterMap_cons, List.filterMap_append, hstop,
      opening?_start hfirst depth, opening?_stop hlast, ihinner, ihrest]

theorem LeftOpen.openings {last depth : Nat} {lines : List (Nat × List Char)}
    {markers : List Member} (h : LeftOpen style last depth lines markers) :
    markers.filterMap Member.opening? = lines.filterMap style.opening? := by
  induction h with
  | closed hlines => exact hlines.openings
  | @region depth before rest first text markers inside hbefore hfirst _ ih =>
    simp only [List.filterMap_append, List.filterMap_cons, hbefore.openings,
      opening?_start hfirst depth, opening?_ofMarker_stop, ih, List.filterMap_nil, List.append_nil]

theorem Marks.openings {last : Nat} {lines : List (Nat × List Char)} {markers : List Member}
    (h : Marks style last lines markers) :
    markers.filterMap Member.opening? = lines.filterMap style.opening? := by
  induction h with
  | leftOpen hlines => exact hlines.openings
  | stray hbefore hline _ ih =>
    rw [List.filterMap_append, List.filterMap_append, List.filterMap_cons_none (opening?_stop hline),
      hbefore.openings, ih]

/-! ## Lines -/

/-- The lines of a text from a given one on, with their numbers. -/
def linesFrom (source : String) (fromLine : Nat) : List (Nat × List Char) :=
  (Text.numbered 0 (Text.lines source)).drop fromLine

/-- The number of the last line of a text. -/
def lastLine (source : String) : Nat := (Text.lines source).length - 1

theorem linesFrom_eq (source : String) (fromLine : Nat) :
    linesFrom source fromLine = Text.numbered fromLine ((Text.lines source).drop fromLine) := by
  unfold linesFrom
  rw [drop_numbered, Nat.zero_add]

theorem fst_lt_of_mem_numbered {α : Type} {l : List α} {start : Nat} {pair : Nat × α}
    (h : pair ∈ Text.numbered start l) : pair.1 < start + l.length := by
  induction l generalizing start with
  | nil => cases h
  | cons a l ih =>
    rw [Text.numbered] at h
    rw [List.length_cons]
    rcases List.mem_cons.1 h with rfl | h
    · dsimp only
      omega
    · have := ih h
      omega

theorem fst_le_lastLine {source : String} {fromLine : Nat} {line : Nat × List Char}
    (h : line ∈ linesFrom source fromLine) : line.1 ≤ lastLine source := by
  have hall : line ∈ Text.numbered 0 (Text.lines source) := (List.drop_sublist _ _).subset h
  have hlt := fst_lt_of_mem_numbered hall
  unfold lastLine
  omega

theorem lastNumber_numbered (number start : Nat) (lines : List (List Char))
    (h : lines ≠ []) : lastNumber number (Text.numbered start lines) = start + lines.length - 1 := by
  induction lines generalizing number start with
  | nil => exact absurd rfl h
  | cons line rest ih =>
    rw [Text.numbered, lastNumber]
    by_cases hrest : rest = []
    · subst hrest
      simp [Text.numbered, lastNumber]
    · rw [ih start (start + 1) hrest, List.length_cons]
      omega

theorem lastNumber_linesFrom (source : String) (fromLine : Nat) :
    lastNumber (lastLine source) (linesFrom source fromLine) = lastLine source := by
  rw [linesFrom_eq]
  by_cases h : (Text.lines source).drop fromLine = []
  · rw [h]
    rfl
  · rw [lastNumber_numbered _ _ _ h, List.length_drop]
    have hlt : fromLine < (Text.lines source).length := by
      by_contra hge
      exact h (List.drop_eq_nil_of_le (by omega))
    unfold lastLine
    omega

/-- The number of the line before matters for regions that are open, and there are none. -/
theorem scan_eq_scanLines (style : MarkerStyle) (source : String) (fromLine number : Nat) :
    style.scan source fromLine = style.scanLines [] number (linesFrom source fromLine) := by
  unfold scan
  rw [← linesFrom]
  cases linesFrom source fromLine with
  | nil => rfl
  | cons line rest => rfl

theorem startLine_le_of_mem_scanLines {opened : List String} {number bound : Nat}
    {lines : List (Nat × List Char)} (hnumber : number ≤ bound)
    (hlines : ∀ line ∈ lines, line.1 ≤ bound) :
    ∀ marker ∈ style.scanLines opened number lines, marker.startLine ≤ bound := by
  induction lines generalizing opened number with
  | nil =>
    intro marker hmarker
    obtain ⟨name, depth, rfl⟩ := exists_ofMarker_of_mem_closeAll hmarker
    exact hnumber
  | cons line rest ih =>
    obtain ⟨hline, hrest⟩ := List.forall_mem_cons.1 hlines
    have hmore : ∀ opened, ∀ marker ∈ style.scanLines opened line.1 rest,
        marker.startLine ≤ bound := fun opened => ih hline hrest
    unfold scanLines
    split
    · exact hmore opened
    · exact List.forall_mem_cons.2 ⟨hline, hmore _⟩
    · split
      · exact hmore []
      · exact List.forall_mem_cons.2 ⟨hline, hmore _⟩

end MarkerStyle

theorem Closes.le_startLine {line : Nat} {stack : List Bracket} {markers : List Member}
    (h : Closes line stack markers) : ∀ marker ∈ markers, line ≤ marker.startLine := by
  induction h with
  | done => exact List.forall_mem_nil _
  | mark hmark hline hstep hrest ih =>
    refine List.forall_mem_cons.2 ⟨hline, fun marker hmarker => ?_⟩
    exact hline.trans (ih marker hmarker)

theorem Closes.pairwise {line : Nat} {stack : List Bracket} {markers : List Member}
    (h : Closes line stack markers) :
    markers.Pairwise fun first second => first.startLine ≤ second.startLine := by
  induction h with
  | done => exact .nil
  | mark hmark hline hstep hrest ih => exact List.pairwise_cons.2 ⟨hrest.le_startLine, ih⟩

/-! ## The markers of a text -/

/-- Markers that are what the lines of a text amount to, from one of its lines on. -/
structure PairsUp (style : MarkerStyle) (source : String) (fromLine : Nat)
    (markers : List Member) : Prop where
  /-- They are the markers of the lines by the grammar: a closing line closes the region
  opened last, or nothing when none is open, and what is left open is closed on the last
  line, the innermost first. -/
  marks : style.Marks (MarkerStyle.lastLine source) (MarkerStyle.linesFrom source fromLine) markers
  /-- The grammar allows no others. -/
  only : ∀ others,
    style.Marks (MarkerStyle.lastLine source) (MarkerStyle.linesFrom source fromLine) others →
    others = markers
  /-- They are properly nested. A pair shares its name, and the depth of both is the number of
  pairs around it. -/
  regions : RegionsAt 0 markers
  balanced : markers.countP Member.closesRegion = markers.countP Member.opensRegion
  ordered : markers.Pairwise fun first second => first.startLine ≤ second.startLine
  within : ∀ marker ∈ markers, fromLine ≤ marker.startLine
    ∧ marker.startLine ≤ MarkerStyle.lastLine source
  /-- The opening ones are those of the lines that are read so, with name, line and column. -/
  openings : markers.filterMap Member.opening?
    = (MarkerStyle.linesFrom source fromLine).filterMap style.opening?

/-- **The markers of a text pair up**, whichever way markers are written, whatever the text
holds and from whichever line it is read. -/
theorem scan_pairs_up (style : MarkerStyle) (source : String) (fromLine : Nat) :
    PairsUp style source fromLine (style.scan source fromLine) := by
  have hunique : ∀ others,
      style.Marks (MarkerStyle.lastLine source) (MarkerStyle.linesFrom source fromLine) others →
      others = style.scan source fromLine := by
    intro others hothers
    rw [MarkerStyle.scan_eq_scanLines style source fromLine (MarkerStyle.lastLine source)]
    exact hothers.eq_scanLines (MarkerStyle.lastNumber_linesFrom source fromLine)
  -- There is a reading of the lines, and it can only be the scan.
  obtain ⟨markers, hmarks⟩ := MarkerStyle.exists_marks style (MarkerStyle.lastLine source)
    (MarkerStyle.linesFrom source fromLine)
  have hscan := hunique markers hmarks
  rw [hscan] at hmarks
  have hcloses := style.closes_scan source fromLine
  refine ⟨hmarks, hunique, hmarks.regionsAt, hmarks.regionsAt.countP_eq, hcloses.pairwise, ?_,
    hmarks.openings⟩
  intro marker hmarker
  refine ⟨hcloses.le_startLine marker hmarker, ?_⟩
  rw [MarkerStyle.scan_eq_scanLines style source fromLine (MarkerStyle.lastLine source)] at hmarker
  exact MarkerStyle.startLine_le_of_mem_scanLines (Nat.le_refl _)
    (fun line hline => MarkerStyle.fst_le_lastLine hline) marker hmarker

/-- A text with a region in another one that is left open, closing lines where nothing is
open, and an opening line before the one from which it is read. -/
theorem scan_pairs_up_of_unbalanced_text :
    let text := "#region Z\n#endregion\n  #region A\n#region B\nint x;\n#endregion\n#endregion
#endregion\n#region C\n\t#region D\nint y;"
    let markers := MarkerStyle.directive.scan text 1
    markers.map (fun marker => (marker.entry.title, marker.startLine, marker.entry.column))
      = [("<A>", 2, 2), ("<B>", 3, 0), ("</B>", 5, 0), ("</A>", 6, 0), ("<C>", 8, 0), ("<D>", 9, 1),
        ("</D>", 10, 0), ("</C>", 10, 0)]
    ∧ PairsUp .directive text 1 markers
    ∧ ∃ marker ∈ markers, marker.entry.title = "</C>"
      ∧ 1 ≤ marker.startLine ∧ marker.startLine ≤ MarkerStyle.lastLine text := by
  intro text markers
  have hthere : "</C>" ∈ markers.map fun marker => marker.entry.title := by decide +kernel
  obtain ⟨marker, hmarker, htitle⟩ := List.mem_map.1 hthere
  exact ⟨by decide +kernel, scan_pairs_up .directive text 1, marker, hmarker, htitle,
    (scan_pairs_up .directive text 1).within marker hmarker⟩

end SourceOutline
