/-
The lines that hold a region marker.

A marker line has its parts in one order: the comment opener, the hash, the keyword, a rest that
is set off from it and the comment closer, with blanks around them where they are wanted.
`MarkerLine` is such a line by its parts and says nothing of how one is read. The reader takes the
parts off one after the other, from both ends. What it finds stands on the line
(`MarkerLine.exists_of_read?`), and what stands on the line is found (`MarkerLine.read?_eq`), so
the lines that are read are exactly those that are put together in this way
(`reads_exactly_marker_lines`).

The closer is what makes this more than a parse from left to right. It may be left out, and it
comes off before the keyword is looked for. For one thing a line that ends in the closer has its
parts in two ways, with the closer as a part and with the closer in the rest; the reader holds to
the first (`MarkerLine.TakesCloser`). For another the closer must not reach back over the rest into
the keyword, which it cannot, because the keywords end in a letter that no closer has
(`MarkerStyle.Clear`).
-/
import SourceOutline.Proofs.Keywords

set_option autoImplicit false

namespace SourceOutline

namespace MarkerStyle

/-! ## The signs of a style -/

/-- The text of the comment opener, if the style has one. -/
def openerText (style : MarkerStyle) : List Char :=
  (style.opener.map String.toList).getD []

/-- The hash, if the style asks for one. -/
def hashText (style : MarkerStyle) : List Char :=
  if style.hashed then ['#'] else []

/-- The text of the comment closer, if it is written and the style has one. -/
def closerText (style : MarkerStyle) (closed : Bool) : List Char :=
  if closed then (style.closer.map String.toList).getD [] else []

theorem closerText_true {style : MarkerStyle} {closer : String} (h : style.closer = some closer) :
    style.closerText true = closer.toList := by
  unfold closerText
  rw [h]
  rfl

/-- What the signs of a style are like: the opener does not begin with a blank, the closer does not
end in one, and it has no letter `n`, in which the keywords end. -/
structure Clear (style : MarkerStyle) : Prop where
  opener_start : ∀ c ∈ style.openerText.head?, Text.isBlank c = false
  closer_end : ∀ c ∈ (style.closerText true).getLast?, Text.isBlank c = false
  closer_apart : ∀ c ∈ style.closerText true, c.toLower ≠ 'n'

/-- The styles in which markers are written. -/
def all : List MarkerStyle :=
  [directive, hashComment, lineComment, blockComment]

theorem clear_of_mem_all {style : MarkerStyle} (h : style ∈ all) : style.Clear := by
  have hstart : ∀ style ∈ all, style.openerText.head?.all (fun c => !Text.isBlank c) = true := by
    decide
  have hend : ∀ style ∈ all,
      (style.closerText true).getLast?.all (fun c => !Text.isBlank c) = true := by
    decide
  have hapart : ∀ style ∈ all, (style.closerText true).all (fun c => c.toLower != 'n') = true := by
    decide
  exact
    { opener_start := by simpa [Option.all_eq_true] using hstart style h
      closer_end := by simpa [Option.all_eq_true] using hend style h
      closer_apart := by simpa using hapart style h }

/-! ## Taking a line apart -/

/-- What is left behind a part of a text, without the blanks before it. -/
theorem dropStart?_trimStart_eq_some_iff {part text body : List Char} :
    (Text.dropStart? part text).map Text.trimStart = some body
      ↔ ∃ gap, (∀ c ∈ gap, Text.isBlank c = true) ∧ text = part ++ (gap ++ body)
        ∧ Text.trimStart body = body := by
  rw [Option.map_eq_some_iff]
  constructor
  · rintro ⟨rest, hrest, rfl⟩
    obtain ⟨gap, hsplit, hgap⟩ := Text.exists_blanks rest
    refine ⟨gap, hgap, ?_, Text.trimStart_eq_self (Text.not_blank_of_mem_head?_trimStart rest)⟩
    rw [← hsplit]
    exact Text.dropStart?_eq_some_iff.1 hrest
  · rintro ⟨gap, hgap, htext, hbody⟩
    refine ⟨gap ++ body, Text.dropStart?_eq_some_iff.2 htext, ?_⟩
    rw [Text.trimStart_append hgap, hbody]

/-- If nothing is to be taken off, a text without blanks before it is left as it is. -/
theorem some_eq_some_iff_of_trimStart {text body : List Char}
    (htext : Text.trimStart text = text) :
    some text = some body
      ↔ ∃ gap, (∀ c ∈ gap, Text.isBlank c = true) ∧ text = [] ++ (gap ++ body)
        ∧ Text.trimStart body = body := by
  constructor
  · rintro ⟨rfl⟩
    exact ⟨[], List.forall_mem_nil _, rfl, htext⟩
  · rintro ⟨gap, hgap, rfl, hbody⟩
    rw [← htext, List.nil_append, Text.trimStart_append hgap, hbody]

theorem dropOpener?_eq_some_iff {style : MarkerStyle} {text body : List Char}
    (htext : Text.trimStart text = text) :
    style.dropOpener? text = some body
      ↔ ∃ gap, (∀ c ∈ gap, Text.isBlank c = true) ∧ text = style.openerText ++ (gap ++ body)
        ∧ Text.trimStart body = body := by
  unfold dropOpener? openerText
  cases style.opener with
  | none => exact some_eq_some_iff_of_trimStart htext
  | some opener => exact dropStart?_trimStart_eq_some_iff

theorem dropHash?_eq_some_iff {style : MarkerStyle} {text body : List Char}
    (htext : Text.trimStart text = text) :
    style.dropHash? text = some body
      ↔ ∃ gap, (∀ c ∈ gap, Text.isBlank c = true) ∧ text = style.hashText ++ (gap ++ body)
        ∧ Text.trimStart body = body := by
  unfold dropHash? hashText
  cases style.hashed with
  | false => exact some_eq_some_iff_of_trimStart htext
  | true => exact dropStart?_trimStart_eq_some_iff

theorem dropCloser_of_suffix {style : MarkerStyle} {closer : String}
    (hcloser : style.closer = some closer) (front : List Char) :
    style.dropCloser (front ++ closer.toList) = Text.trimEnd front := by
  unfold dropCloser
  rw [hcloser]
  simp only [Text.dropEnd?_eq_some_iff.2 rfl, Option.getD_some]

/-- Without a closer at its end a trimmed text is left as it is. -/
theorem dropCloser_eq_self {style : MarkerStyle} {text : List Char}
    (htext : Text.trimEnd text = text)
    (hopen : ∀ closer ∈ style.closer, ¬closer.toList <:+ text) :
    style.dropCloser text = text := by
  unfold dropCloser
  split
  · rename_i closer hcloser
    have hnone : Text.dropEnd? closer.toList text = none := by
      refine Option.eq_none_iff_forall_ne_some.2 fun front hfront => ?_
      exact hopen closer hcloser ⟨front, (Text.dropEnd?_eq_some_iff.1 hfront).symm⟩
    rw [hnone, Option.getD_none, htext]
  · rfl

/-- What is taken off at the end of a trimmed text is the closer, if the text ends in it, with the
blanks before it. -/
theorem exists_dropCloser (style : MarkerStyle) {text : List Char}
    (htext : Text.trimEnd text = text) :
    ∃ blanks closed, (∀ c ∈ blanks, Text.isBlank c = true)
      ∧ text = style.dropCloser text ++ (blanks ++ style.closerText closed)
      ∧ (closed = true ∨ ∀ closer ∈ style.closer, ¬closer.toList <:+ text) := by
  by_cases hopen : ∀ closer ∈ style.closer, ¬closer.toList <:+ text
  · refine ⟨[], false, List.forall_mem_nil _, ?_, .inr hopen⟩
    rw [dropCloser_eq_self htext hopen]
    simp [closerText]
  · push Not at hopen
    obtain ⟨closer, hcloser, body, rfl⟩ := hopen
    obtain ⟨blanks, hsplit, hblanks⟩ := Text.exists_blanks_behind body
    refine ⟨blanks, true, hblanks, ?_, .inl rfl⟩
    rw [dropCloser_of_suffix hcloser, closerText_true hcloser, ← List.append_assoc, ← hsplit]

/-- The steps of the reading, one after the other. -/
theorem read?_eq_some_iff {style : MarkerStyle} {line name : List Char} {boundary : Boundary} :
    style.read? line = some (boundary, name)
      ↔ ∃ text body rest, style.dropOpener? (Text.trim line) = some text
        ∧ style.dropHash? (style.dropCloser text) = some body
        ∧ afterKeyword? style.exact (keyword boundary) body = some rest
        ∧ Text.trim rest = name := by
  unfold read?
  simp only [Option.bind_eq_bind, Option.bind_eq_some_iff, exists_and_left]
  refine exists_congr fun text => and_congr_right fun _ => exists_congr fun body =>
    and_congr_right fun _ => ?_
  -- The closing keyword is tried first, but a text that begins with it begins with no other.
  cases hstop : afterKeyword? style.exact (keyword .stop) body with
  | some rest =>
    constructor
    · rintro ⟨⟩
      exact ⟨rest, hstop, rfl⟩
    · rintro ⟨rest', hrest', rfl⟩
      obtain rfl := boundary_eq_of_afterKeyword? hstop hrest'
      rw [hstop, Option.some.injEq] at hrest'
      rw [hrest']
      rfl
  | none =>
    cases boundary with
    | start => simp [Option.bind_eq_some_iff]
    | stop => simp [hstop, Option.bind_eq_some_iff]

end MarkerStyle

/-! ## Lines by their parts -/

/-- A line that holds a marker, by its parts. -/
structure MarkerLine (style : MarkerStyle) where
  boundary : Boundary
  /-- The blanks behind the comment opener. -/
  gap : List Char
  /-- The blanks behind the hash. -/
  inset : List Char
  /-- The keyword, as it is spelled. -/
  word : List Char
  /-- What is behind the keyword. -/
  rest : List Char
  /-- Whether the comment closer is written. -/
  closed : Bool
  blank_gap : ∀ c ∈ gap, Text.isBlank c = true
  blank_inset : ∀ c ∈ inset, Text.isBlank c = true
  spelled : MarkerStyle.Spells style.exact (MarkerStyle.keyword boundary) word
  set_off : ∀ c ∈ rest.head?, Text.isBlank c = true

namespace MarkerLine

open MarkerStyle

variable {style : MarkerStyle}

/-- The parts put together. -/
def text (line : MarkerLine style) : List Char :=
  style.openerText ++ (line.gap ++ (style.hashText ++ (line.inset ++ (line.word
    ++ (line.rest ++ style.closerText line.closed)))))

/-- A closer at the end of the line is the closer of the comment and not a part of the rest. -/
def TakesCloser (line : MarkerLine style) : Prop :=
  line.closed = true ∨ ∀ closer ∈ style.closer, ¬closer.toList <:+ line.rest

/-- A beginning of the rest is set off as the rest is. -/
theorem set_off_left (line : MarkerLine style) {front behind : List Char}
    (h : line.rest = front ++ behind) : ∀ c ∈ front.head?, Text.isBlank c = true := by
  intro c hc
  refine line.set_off c ?_
  rw [h, List.head?_append, hc]
  rfl

theorem set_off_trimEnd (line : MarkerLine style) :
    ∀ c ∈ (Text.trimEnd line.rest).head?, Text.isBlank c = true := by
  obtain ⟨blanks, hsplit, -⟩ := Text.exists_blanks_behind line.rest
  exact line.set_off_left hsplit

/-- A closer that was counted to the rest can be counted as the closer. -/
theorem exists_takesCloser (line : MarkerLine style) :
    ∃ line' : MarkerLine style, line'.text = line.text ∧ line'.boundary = line.boundary
      ∧ line'.TakesCloser := by
  by_cases htakes : line.TakesCloser
  · exact ⟨line, rfl, rfl, htakes⟩
  · unfold TakesCloser at htakes
    push Not at htakes
    obtain ⟨hopen, closer, hcloser, rest, hrest⟩ := htakes
    refine ⟨{ line with rest := rest, closed := true, set_off := line.set_off_left hrest.symm }, ?_,
      rfl, .inl rfl⟩
    have hnothing : style.closerText line.closed = [] := if_neg hopen
    simp only [text, closerText_true hcloser, hnothing, ← hrest, List.append_nil]

/-! ## What is read stands on the line -/

/-- Blanks that follow a text which is set off belong to it. -/
theorem set_off_append {rest blanks : List Char} (hrest : ∀ c ∈ rest.head?, Text.isBlank c = true)
    (hblanks : ∀ c ∈ blanks, Text.isBlank c = true) :
    ∀ c ∈ (rest ++ blanks).head?, Text.isBlank c = true := by
  cases rest with
  | nil => exact fun c hc => hblanks c (List.mem_of_mem_head? hc)
  | cons d rest => exact hrest

theorem exists_of_read? {line name : List Char} {boundary : Boundary}
    (h : style.read? line = some (boundary, name)) :
    ∃ parts : MarkerLine style, parts.text = Text.trim line ∧ parts.TakesCloser
      ∧ parts.boundary = boundary ∧ Text.trim parts.rest = name := by
  obtain ⟨text, body, rest, hopener, hhash, hkeyword, hname⟩ := read?_eq_some_iff.1 h
  obtain ⟨gap, hgap, hline, hstart⟩ :=
    (dropOpener?_eq_some_iff (Text.trimStart_trim line)).1 hopener
  have hend : Text.trimEnd text = text := by
    apply Text.trimEnd_of_suffix_trim
    rw [hline]
    exact (List.suffix_append _ _).trans (List.suffix_append _ _)
  obtain ⟨blanks, closed, hblanks, htext, hclosed⟩ := exists_dropCloser style hend
  have hstart' : Text.trimStart (style.dropCloser text) = style.dropCloser text := by
    rw [htext] at hstart
    exact Text.trimStart_left hstart
  obtain ⟨inset, hinset, hbody, -⟩ := (dropHash?_eq_some_iff hstart').1 hhash
  obtain ⟨word, hword, hspells, hoff⟩ := afterKeyword?_eq_some_iff.1 hkeyword
  have hwhole : text = style.hashText ++ (inset ++ word)
      ++ ((rest ++ blanks) ++ style.closerText closed) := by
    rw [htext, hbody, hword]
    simp only [List.append_assoc]
  -- The blanks before the closer are counted to the rest.
  refine ⟨⟨boundary, gap, inset, word, rest ++ blanks, closed, hgap, hinset, hspells,
    set_off_append hoff hblanks⟩, ?_, ?_, rfl, ?_⟩
  · rw [hline, hwhole]
    simp only [MarkerLine.text, List.append_assoc]
  · by_cases hopen : closed = true
    · exact .inl hopen
    · refine .inr fun closer hcloser hsuffix => hclosed.resolve_left hopen closer hcloser ?_
      have hnothing : style.closerText closed = [] := if_neg hopen
      rw [hwhole, hnothing, List.append_nil]
      exact hsuffix.trans (List.suffix_append _ _)
  · have hsame := Text.trim_surrounded (List.forall_mem_nil _) hblanks rest
    rw [← hname, ← hsame]
    rfl

/-! ## What stands on the line is read -/

/-- The hash and the keyword, which stand between the opener and the rest. -/
def front (line : MarkerLine style) : List Char :=
  style.hashText ++ (line.inset ++ line.word)

theorem text_eq (line : MarkerLine style) :
    line.text = style.openerText ++ (line.gap ++ (line.front
      ++ (line.rest ++ style.closerText line.closed))) := by
  simp only [text, front, List.append_assoc]

/-- What is behind the opener has no more blanks before it. -/
def Settled (line : MarkerLine style) : Prop :=
  ∀ text, Text.trimStart (line.front ++ text) = line.front ++ text

/-- Without a hash the blanks before the keyword can be counted as blanks behind the opener. -/
theorem exists_settled (line : MarkerLine style) :
    ∃ line' : MarkerLine style, line'.Settled ∧ line'.text = line.text
      ∧ line'.boundary = line.boundary ∧ line'.rest = line.rest ∧ line'.closed = line.closed := by
  by_cases hhashed : style.hashed = true
  · have hhash : style.hashText = ['#'] := if_pos hhashed
    refine ⟨line, fun text => Text.trimStart_eq_self ?_, rfl, rfl, rfl, rfl⟩
    simp [front, hhash, Text.isBlank]
  · have hnone : style.hashText = [] := if_neg hhashed
    refine ⟨{ line with
        gap := line.gap ++ line.inset
        inset := []
        blank_gap := List.forall_mem_append.2 ⟨line.blank_gap, line.blank_inset⟩
        blank_inset := List.forall_mem_nil _ }, fun text => ?_, ?_, rfl, rfl, rfl⟩
    · simpa only [front, hnone, List.nil_append] using line.spelled.trimStart_append text
    · simp only [text, hnone, List.nil_append, List.append_assoc]

/-- A closer does not reach back to the keyword. -/
theorem suffix_rest (hstyle : style.Clear) {closer : String} (hcloser : style.closer = some closer)
    {boundary : Boundary} {word : List Char} (hword : Spells style.exact (keyword boundary) word)
    (before : List Char) {rest : List Char} (h : closer.toList <:+ before ++ (word ++ rest)) :
    closer.toList <:+ rest := by
  obtain ⟨front, last, rfl, hlast⟩ := hword.exists_concat
  have hnot : last ∉ closer.toList := by
    intro hmem
    rw [← closerText_true hcloser] at hmem
    exact hstyle.closer_apart last hmem hlast
  have hbehind : last :: rest <:+ before ++ ((front ++ [last]) ++ rest) :=
    ⟨before ++ front, by simp⟩
  rcases List.suffix_or_suffix_of_suffix h hbehind with hin | hover
  · refine (List.suffix_cons_iff.1 hin).resolve_left fun heq => hnot ?_
    rw [heq]
    exact List.mem_cons_self
  · exact absurd (hover.subset List.mem_cons_self) hnot

/-- The closer comes off with the blanks before it, and the rest is the same but for these. -/
theorem exists_dropCloser_front (hstyle : style.Clear) {line : MarkerLine style}
    (htakes : line.TakesCloser)
    (hend : Text.trimEnd (line.front ++ (line.rest ++ style.closerText line.closed))
      = line.front ++ (line.rest ++ style.closerText line.closed)) :
    ∃ rest, style.dropCloser (line.front ++ (line.rest ++ style.closerText line.closed))
        = line.front ++ rest
      ∧ (∀ c ∈ rest.head?, Text.isBlank c = true) ∧ Text.trim rest = Text.trim line.rest := by
  cases hcloser : style.closer with
  | none =>
    have hnothing : style.closerText line.closed = [] := by
      unfold closerText
      simp [hcloser]
    refine ⟨line.rest, ?_, line.set_off, rfl⟩
    rw [dropCloser_eq_self hend (by simp [hcloser]), hnothing, List.append_nil]
  | some closer =>
    by_cases hclosed : line.closed = true
    · refine ⟨Text.trimEnd line.rest, ?_, line.set_off_trimEnd, Text.trim_trimEnd line.rest⟩
      have hcut := line.spelled.trimEnd_append (style.hashText ++ line.inset) line.rest
      rw [hclosed, closerText_true hcloser, ← List.append_assoc, dropCloser_of_suffix hcloser]
      simpa only [front, List.append_assoc] using hcut
    · -- A line without its closer does not end in it: if it did, so would the rest.
      have hnothing : style.closerText line.closed = [] := if_neg hclosed
      have hopen : ∀ closer ∈ style.closer,
          ¬closer.toList <:+ line.front ++ (line.rest ++ style.closerText line.closed) := by
        intro closer hmem hsuffix
        refine htakes.resolve_left hclosed closer hmem ?_
        refine suffix_rest hstyle hmem line.spelled (style.hashText ++ line.inset) ?_
        simpa only [front, hnothing, List.append_nil, List.append_assoc] using hsuffix
      refine ⟨line.rest, ?_, line.set_off, rfl⟩
      rw [dropCloser_eq_self hend hopen, hnothing, List.append_nil]

theorem read?_of_settled (hstyle : style.Clear) {line : List Char} {parts : MarkerLine style}
    (hsettled : parts.Settled) (hline : parts.text = Text.trim line)
    (htakes : parts.TakesCloser) :
    style.read? line = some (parts.boundary, Text.trim parts.rest) := by
  rw [text_eq] at hline
  have hopener : style.dropOpener? (Text.trim line)
      = some (parts.front ++ (parts.rest ++ style.closerText parts.closed)) :=
    (dropOpener?_eq_some_iff (Text.trimStart_trim line)).2
      ⟨parts.gap, parts.blank_gap, hline.symm, hsettled _⟩
  have hend : Text.trimEnd (parts.front ++ (parts.rest ++ style.closerText parts.closed))
      = parts.front ++ (parts.rest ++ style.closerText parts.closed) := by
    apply Text.trimEnd_of_suffix_trim
    rw [← hline]
    exact (List.suffix_append _ _).trans (List.suffix_append _ _)
  obtain ⟨rest, hdrop, hoff, hrest⟩ := exists_dropCloser_front hstyle htakes hend
  have hhash : style.dropHash? (parts.front ++ rest) = some (parts.word ++ rest) :=
    (dropHash?_eq_some_iff (hsettled rest)).2
      ⟨parts.inset, parts.blank_inset, by simp only [front, List.append_assoc],
        parts.spelled.trimStart_append rest⟩
  have hkeyword : afterKeyword? style.exact (keyword parts.boundary) (parts.word ++ rest)
      = some rest :=
    afterKeyword?_eq_some_iff.2 ⟨parts.word, rfl, parts.spelled, hoff⟩
  refine read?_eq_some_iff.2 ⟨_, _, rest, hopener, ?_, hkeyword, hrest⟩
  rw [hdrop, hhash]

theorem read?_eq (hstyle : style.Clear) {line : List Char} {parts : MarkerLine style}
    (hline : parts.text = Text.trim line) (htakes : parts.TakesCloser) :
    style.read? line = some (parts.boundary, Text.trim parts.rest) := by
  obtain ⟨parts', hsettled, htext, hboundary, hrest, hclosed⟩ := parts.exists_settled
  have htakes' : parts'.TakesCloser := by
    unfold TakesCloser
    rwa [hclosed, hrest]
  rw [← hboundary, ← hrest]
  exact read?_of_settled hstyle hsettled (htext.trans hline) htakes'

/-! ## What is written is read -/

/-- At the end of a line the rest is trimmed, unless the closer is there. -/
theorem exists_trimEnd_rest (hstyle : style.Clear) (line : MarkerLine style) :
    ∃ rest, Text.trimEnd (line.rest ++ style.closerText line.closed)
        = rest ++ style.closerText line.closed
      ∧ (∀ c ∈ rest.head?, Text.isBlank c = true) ∧ Text.trim rest = Text.trim line.rest := by
  by_cases hnothing : style.closerText line.closed = []
  · rw [hnothing, List.append_nil]
    exact ⟨Text.trimEnd line.rest, (List.append_nil _).symm, line.set_off_trimEnd,
      Text.trim_trimEnd line.rest⟩
  · have hclosed : line.closed = true := by
      by_contra hopen
      exact hnothing (if_neg hopen)
    refine ⟨line.rest, Text.trimEnd_eq_self fun c hc => hstyle.closer_end c ?_, line.set_off, rfl⟩
    rwa [List.getLast?_append_of_ne_nil _ hnothing, hclosed] at hc

/-- A line that is written with blanks at its ends is trimmed to one with the same marker. -/
theorem exists_trimmed (hstyle : style.Clear) (line : MarkerLine style) :
    ∃ line' : MarkerLine style, line'.text = Text.trim line.text
      ∧ line'.boundary = line.boundary ∧ line'.closed = line.closed
      ∧ Text.trim line'.rest = Text.trim line.rest := by
  obtain ⟨settled, hsettled, htext, hboundary, hrest, hclosed⟩ := line.exists_settled
  rw [← htext, ← hboundary, ← hrest, ← hclosed]
  -- At the front it is only the gap that comes off, if the style has no opener.
  obtain ⟨gap, hgap, hstart⟩ : ∃ gap, (∀ c ∈ gap, Text.isBlank c = true)
      ∧ Text.trimStart settled.text = style.openerText ++ (gap ++ (settled.front
        ++ (settled.rest ++ style.closerText settled.closed))) := by
    rw [text_eq]
    cases hopener : style.openerText with
    | nil =>
      refine ⟨[], List.forall_mem_nil _, ?_⟩
      rw [List.nil_append, Text.trimStart_append settled.blank_gap, hsettled]
      rfl
    | cons c opener =>
      refine ⟨settled.gap, settled.blank_gap, Text.trimStart_eq_self ?_⟩
      simpa [hopener] using hstyle.opener_start
  obtain ⟨rest, hend, hoff, hsame⟩ := settled.exists_trimEnd_rest hstyle
  refine ⟨{ settled with gap := gap, rest := rest, blank_gap := hgap, set_off := hoff }, ?_, rfl,
    rfl, hsame⟩
  have hcut := settled.spelled.trimEnd_append
    (style.openerText ++ (gap ++ (style.hashText ++ settled.inset)))
    (settled.rest ++ style.closerText settled.closed)
  rw [Text.trim, hstart]
  simp only [text, front, List.append_assoc] at hcut ⊢
  rw [hcut, hend]

/-- Whatever blanks stand around a line with its closer, the marker is read. -/
theorem read?_surrounded (hstyle : style.Clear) (parts : MarkerLine style)
    (hclosed : parts.closed = true) {before after : List Char}
    (hbefore : ∀ c ∈ before, Text.isBlank c = true)
    (hafter : ∀ c ∈ after, Text.isBlank c = true) :
    style.read? (before ++ (parts.text ++ after))
      = some (parts.boundary, Text.trim parts.rest) := by
  obtain ⟨parts', htext, hboundary, hclosed', hrest⟩ := parts.exists_trimmed hstyle
  rw [← hboundary, ← hrest]
  refine read?_eq hstyle ?_ (.inl (hclosed'.trans hclosed))
  rw [htext, Text.trim_surrounded hbefore hafter]

end MarkerLine

namespace MarkerStyle

/-! ## Lines by bytes -/

/-- As `read?`, with the keywords looked for by bytes. A cut through a character is an error. -/
def readBytes (style : MarkerStyle) (line : List Char) :
    Except Text.BadCut (Option (Boundary × List Char)) :=
  match (style.dropOpener? (Text.trim line)).bind fun text =>
      style.dropHash? (style.dropCloser text) with
  | none => .ok none
  | some text => do
    match ← afterBytes style.exact (keyword .stop) text with
    | some rest => return some (.stop, Text.trim rest)
    | none =>
      let found ← afterBytes style.exact (keyword .start) text
      return found.map fun rest => (.start, Text.trim rest)

/-- The error does not come up, and what is read is the same. -/
theorem readBytes_eq (style : MarkerStyle) (line : List Char) :
    style.readBytes line = .ok (style.read? line) := by
  unfold readBytes read?
  cases style.dropOpener? (Text.trim line) with
  | none => rfl
  | some text =>
    simp only [Option.bind_eq_bind, Option.bind_some]
    cases style.dropHash? (style.dropCloser text) with
    | none => rfl
    | some body =>
      simp only [afterBytes_eq style.exact (toLower_keyword _), Option.bind_some]
      cases afterKeyword? style.exact (keyword .stop) body with
      | some rest => rfl
      | none => cases afterKeyword? style.exact (keyword .start) body <;> rfl

/-! ## Lines as they are written -/

/-- A name with its parts around it, and with any blanks between two of them: at least one in front
of the name, if there is a name. -/
theorem read?_written {style : MarkerStyle} (hstyle : style.Clear) {boundary : Boundary}
    {name word before gap inset apart aside after : List Char}
    (hword : Spells style.exact (keyword boundary) word) (hname : Text.trim name = name)
    (hapart : name = [] ∨ apart ≠ [])
    (hblanks : ∀ c ∈ before ++ gap ++ inset ++ apart ++ aside ++ after, Text.isBlank c = true) :
    style.read? (before ++ style.openerText ++ gap ++ style.hashText ++ inset ++ word ++ apart
      ++ name ++ aside ++ style.closerText true ++ after) = some (boundary, name) := by
  simp only [List.forall_mem_append] at hblanks
  obtain ⟨⟨⟨⟨⟨hbefore, hgap⟩, hinset⟩, hblank⟩, haside⟩, hafter⟩ := hblanks
  have hoff : ∀ c ∈ (apart ++ (name ++ aside)).head?, Text.isBlank c = true := by
    cases apart with
    | nil =>
      obtain rfl : name = [] := by simpa using hapart
      exact fun c hc => haside c (List.mem_of_mem_head? hc)
    | cons d apart => exact fun c hc => hblank c (List.mem_of_mem_head? hc)
  let parts : MarkerLine style :=
    ⟨boundary, gap, inset, word, apart ++ (name ++ aside), true, hgap, hinset, hword, hoff⟩
  have hread := MarkerLine.read?_surrounded hstyle parts rfl hbefore hafter
  have hrest : Text.trim parts.rest = name := (Text.trim_surrounded hblank haside name).trans hname
  rw [hrest] at hread
  simpa only [MarkerLine.text, parts, List.append_assoc] using hread

/-- **The lines that are read.** A line is read as a marker of a boundary exactly if it has the
parts of one when it is trimmed. The name is the trimmed rest, and a closer at the end of the line
is not counted to that. A name that is written between the other parts is read back. No character
is cut apart on the way. -/
theorem reads_exactly_marker_lines {style : MarkerStyle} (hstyle : style ∈ all) :
    (∀ line boundary, (∃ name, style.read? line = some (boundary, name))
        ↔ ∃ parts : MarkerLine style, parts.text = Text.trim line ∧ parts.boundary = boundary)
      ∧ (∀ line boundary name, style.read? line = some (boundary, name)
        ↔ ∃ parts : MarkerLine style, parts.text = Text.trim line ∧ parts.TakesCloser
          ∧ parts.boundary = boundary ∧ Text.trim parts.rest = name)
      ∧ (∀ (boundary : Boundary) (name word before gap inset apart aside after : List Char),
        Spells style.exact (keyword boundary) word → Text.trim name = name →
        (name = [] ∨ apart ≠ []) →
        (∀ c ∈ before ++ gap ++ inset ++ apart ++ aside ++ after, Text.isBlank c = true) →
        style.read? (before ++ style.openerText ++ gap ++ style.hashText ++ inset ++ word ++ apart
          ++ name ++ aside ++ style.closerText true ++ after) = some (boundary, name))
      ∧ ∀ line, style.readBytes line = .ok (style.read? line) := by
  have hclear := clear_of_mem_all hstyle
  have hexact : ∀ line boundary name, style.read? line = some (boundary, name)
      ↔ ∃ parts : MarkerLine style, parts.text = Text.trim line ∧ parts.TakesCloser
        ∧ parts.boundary = boundary ∧ Text.trim parts.rest = name := by
    intro line boundary name
    constructor
    · exact MarkerLine.exists_of_read?
    · rintro ⟨parts, hline, htakes, rfl, rfl⟩
      exact MarkerLine.read?_eq hclear hline htakes
  refine ⟨fun line boundary => ?_, hexact, ?_, style.readBytes_eq⟩
  · constructor
    · rintro ⟨name, hread⟩
      obtain ⟨parts, hline, -, hboundary, -⟩ := MarkerLine.exists_of_read? hread
      exact ⟨parts, hline, hboundary⟩
    · rintro ⟨parts, hline, rfl⟩
      obtain ⟨parts', htext, hboundary, htakes⟩ := parts.exists_takesCloser
      rw [← hboundary]
      exact ⟨_, MarkerLine.read?_eq hclear (htext.trans hline) htakes⟩
  · intro boundary name word before gap inset apart aside after hword hname hapart hblanks
    exact read?_written hclear hword hname hapart hblanks

/-- A block comment whose name ends in a closer of its own, and one in which the keyword would end
inside a character. -/
theorem reads_exactly_marker_lines_of_block_comment :
    blockComment ∈ all
      ∧ blockComment.read? "\t/* # EndRegion Größe */ */ ".toList
        = some (.stop, "Größe */".toList)
      ∧ (¬∃ parts : MarkerLine blockComment, parts.text = "/*#endregioö*/".toList)
      ∧ blockComment.readBytes "/*#endregioö*/".toList = .ok none := by
  have hmem : blockComment ∈ all := by decide
  obtain ⟨haccepts, -, hwritten, hbytes⟩ := reads_exactly_marker_lines hmem
  have hnone : blockComment.read? "/*#endregioö*/".toList = none := by decide
  have htrim : Text.trim "/*#endregioö*/".toList = "/*#endregioö*/".toList := by decide
  refine ⟨hmem, ?_, ?_, ?_⟩
  · exact hwritten .stop "Größe */".toList "EndRegion".toList ['\t'] [' '] [' '] [' '] [' '] [' ']
      (by decide) (by decide) (by decide) (by simp [Text.isBlank])
  · rintro ⟨parts, hparts⟩
    obtain ⟨name, hread⟩ := (haccepts _ parts.boundary).2 ⟨parts, hparts.trans htrim.symm, rfl⟩
    rw [hnone] at hread
    cases hread
  · rw [hbytes, hnone]

end MarkerStyle

end SourceOutline
