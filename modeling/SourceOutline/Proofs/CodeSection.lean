/-
What a Razor component declares is what its code section declares as C#.

The section begins at the first line that opens it. An `Opening` is the shape of such a
line: blanks, a directive, and a brace with nothing but blanks before it. A `CodeSection` is
a text taken apart at the first line of that shape. There is one as soon as any line has
it, and then the mapping of the component is the mapping of a C# text, which has the head of
a class in the place of the directive, moved down by the lines before the section
(`Razor.CodeSection.mapping_eq`).

The parser is any function from texts to trees, so nothing is known about the trees of two
texts but that they are equal if the texts are. The component and the C# text are therefore
read off the same tree, in two readings.
-/
import SourceOutline.Proofs.Mappings
import SourceOutline.Proofs.Readings
import SourceOutline.Proofs.Substrings

set_option autoImplicit false

namespace SourceOutline

namespace Razor

/-! ## Lines that open a section -/

/-- How a line opens a code section: blanks, a directive and a brace after it. -/
structure Opening (line : List Char) where
  blanks : List Char
  directive : String
  /-- What follows the directive. -/
  after : List Char
  line_eq : line = blanks ++ (directive.toList ++ after)
  blank : ∀ c ∈ blanks, Text.isBlank c = true
  known : directive ∈ directives
  brace : ['\x7b'] <+: Text.trimStart after

/-- The line with the head of a class in the place of the directive. -/
def Opening.classLine {line : List Char} (opening : Opening line) (componentName : String) :
    List Char :=
  opening.blanks ++ (("public class " ++ componentName).toList ++ opening.after)

/-- A directive begins with a sign that is no blank. -/
theorem exists_of_mem_directives {directive : String} (h : directive ∈ directives) :
    ∃ name, directive.toList = '@' :: name := by
  simp only [directives, List.mem_cons, List.not_mem_nil, or_false] at h
  rcases h with rfl | rfl
  · exact ⟨"code".toList, rfl⟩
  · exact ⟨"functions".toList, rfl⟩

theorem not_blank_at : Text.isBlank '@' = false := rfl

theorem Opening.trimStart_eq {line : List Char} (opening : Opening line) :
    Text.trimStart line = opening.directive.toList ++ opening.after := by
  obtain ⟨name, hname⟩ := exists_of_mem_directives opening.known
  conv_lhs => rw [opening.line_eq]
  rw [Text.trimStart_append opening.blank, hname, List.cons_append, Text.trimStart,
    List.dropWhile_cons_of_neg (by simp [not_blank_at])]

theorem opensWith_iff {line : List Char} {directive : String} :
    opensWith line directive = true
      ↔ ∃ after, Text.trimStart line = directive.toList ++ after
        ∧ ['\x7b'] <+: Text.trimStart after := by
  rw [opensWith]
  constructor
  · intro h
    split at h
    · rename_i after hafter
      exact ⟨after, Text.dropStart?_eq_some_iff.1 hafter, Text.startsWith_iff.1 h⟩
    · cases h
  · rintro ⟨after, hafter, hbrace⟩
    rw [Text.dropStart?_eq_some_iff.2 hafter]
    exact Text.startsWith_iff.2 hbrace

/-- Neither directive is the beginning of the other, so a line begins with one of them. -/
theorem directive_unique {directive directive' : String} {after after' : List Char}
    (h : directive ∈ directives) (h' : directive' ∈ directives)
    (heq : directive.toList ++ after = directive'.toList ++ after') : directive = directive' := by
  simp only [directives, List.mem_cons, List.not_mem_nil, or_false] at h h'
  rcases h with rfl | rfl <;> rcases h' with rfl | rfl
  · rfl
  -- The second characters differ.
  · simp at heq
  · simp at heq
  · rfl

/-- The directive that is found is the one that is there. -/
theorem Opening.opening?_eq {line : List Char} (opening : Opening line) :
    opening? line = some opening.directive := by
  have hopens : opensWith line opening.directive = true :=
    opensWith_iff.2 ⟨opening.after, opening.trimStart_eq, opening.brace⟩
  cases hfound : opening? line with
  | none => exact absurd hopens (List.find?_eq_none.1 hfound _ opening.known)
  | some directive =>
    -- Both directives are at the beginning of the trimmed line.
    obtain ⟨after, hafter, -⟩ := opensWith_iff.1 (List.find?_some hfound)
    rw [opening.trimStart_eq] at hafter
    rw [directive_unique opening.known (List.mem_of_find?_eq_some hfound) hafter]

theorem nonempty_opening_iff {line : List Char} :
    Nonempty (Opening line) ↔ (opening? line).isSome = true := by
  constructor
  · rintro ⟨opening⟩
    rw [opening.opening?_eq, Option.isSome_some]
  · intro h
    obtain ⟨directive, hfound⟩ := Option.isSome_iff_exists.1 h
    obtain ⟨after, hafter, hbrace⟩ := opensWith_iff.1 (List.find?_some hfound)
    obtain ⟨blanks, hline, hblank⟩ := Text.exists_blanks line
    rw [hafter] at hline
    exact ⟨⟨blanks, directive, after, hline, hblank, List.mem_of_find?_eq_some hfound, hbrace⟩⟩

/-! ## The class line -/

/-- What stands first of a part is where its first character does. -/
theorem replaceFirst_append {c : Char} {before : List Char} (hbefore : c ∉ before)
    (part replacement after : List Char) :
    replaceFirst (c :: part) replacement (before ++ (c :: part ++ after))
      = before ++ (replacement ++ after) := by
  induction before with
  | nil =>
    rw [List.nil_append, List.cons_append, replaceFirst, ← List.cons_append,
      Text.dropStart?_eq_some_iff.2 rfl]
    rfl
  | cons first rest ih =>
    -- The part does not begin here, since its first character does not stand here.
    rw [List.mem_cons, not_or] at hbefore
    have hno : Text.dropStart? (c :: part) (first :: (rest ++ (c :: part ++ after))) = none := by
      rw [Text.dropStart?, if_neg hbefore.1]
    rw [List.cons_append, replaceFirst, hno]
    dsimp only
    rw [ih hbefore.2, List.cons_append]

/-- The directive is replaced where it opens the section. -/
theorem Opening.replaceFirst_eq {line : List Char} (opening : Opening line)
    (componentName : String) :
    replaceFirst opening.directive.toList ("public class " ++ componentName).toList line
      = opening.classLine componentName := by
  obtain ⟨name, hname⟩ := exists_of_mem_directives opening.known
  -- What stands before the directive is blank, so it holds no earlier occurrence.
  have hbefore : '@' ∉ opening.blanks := by
    intro hmem
    have hblank := opening.blank _ hmem
    rw [not_blank_at] at hblank
    cases hblank
  have hline := opening.line_eq
  rw [hname] at hline
  calc replaceFirst opening.directive.toList ("public class " ++ componentName).toList line
    _ = replaceFirst ('@' :: name) ("public class " ++ componentName).toList
          (opening.blanks ++ ('@' :: name ++ opening.after)) := by rw [hname, ← hline]
    _ = opening.classLine componentName := replaceFirst_append hbefore name _ opening.after

/-! ## Sections -/

/-- A text taken apart at the first line that opens a code section. -/
structure CodeSection (source : String) where
  earlier : List (List Char)
  line : List Char
  later : List (List Char)
  lines_eq : Text.lines source = earlier ++ line :: later
  first : ∀ previous ∈ earlier, IsEmpty (Opening previous)
  opening : Opening line

/-- The number of the line that opens the section. -/
def CodeSection.start {source : String} (found : CodeSection source) : Nat := found.earlier.length

/-- The section as a C# text. -/
def CodeSection.code {source : String} (found : CodeSection source) (componentName : String) :
    String :=
  String.ofList (Text.join ['\n'] (found.opening.classLine componentName :: found.later))

/-- Lines that open no section are passed over. -/
theorem sectionFrom?_append {earlier : List (List Char)}
    (hearlier : ∀ line ∈ earlier, IsEmpty (Opening line)) (componentName : String) (number : Nat)
    (rest : List (List Char)) :
    sectionFrom? componentName number (earlier ++ rest)
      = sectionFrom? componentName (number + earlier.length) rest := by
  induction earlier generalizing number with
  | nil => rfl
  | cons line earlier ih =>
    rw [List.forall_mem_cons] at hearlier
    have hline : opening? line = none := by
      rw [← Option.not_isSome_iff_eq_none, ← nonempty_opening_iff, not_nonempty_iff]
      exact hearlier.1
    rw [List.cons_append, sectionFrom?, hline]
    dsimp only
    rw [ih hearlier.2, List.length_cons, Nat.add_assoc, Nat.add_comm 1]

theorem CodeSection.section?_eq {source : String} (found : CodeSection source)
    (componentName : String) : section? source componentName
      = some ⟨found.start, found.code componentName⟩ := by
  rw [section?, found.lines_eq, sectionFrom?_append found.first, sectionFrom?,
    found.opening.opening?_eq]
  dsimp only
  rw [found.opening.replaceFirst_eq, Nat.zero_add]
  rfl

theorem section?_eq_none {source : String}
    (hlines : ∀ line ∈ Text.lines source, IsEmpty (Opening line))
    (componentName : String) : section? source componentName = none := by
  rw [section?, ← List.append_nil (Text.lines source), sectionFrom?_append hlines, sectionFrom?]

/-- Among lines one of which opens a section there is a first one. -/
theorem exists_first_opening {lines : List (List Char)}
    (h : ∃ line ∈ lines, Nonempty (Opening line)) :
    ∃ earlier line later, lines = earlier ++ line :: later
      ∧ (∀ previous ∈ earlier, IsEmpty (Opening previous)) ∧ Nonempty (Opening line) := by
  simp only [nonempty_opening_iff, ← not_nonempty_iff] at h ⊢
  obtain ⟨line, hline⟩ := Option.isSome_iff_exists.1 (List.find?_isSome.2 h)
  obtain ⟨hopens, earlier, later, hlines, hearlier⟩ := List.find?_eq_some_iff_append.1 hline
  exact ⟨earlier, line, later, hlines, fun previous h => by simpa using hearlier previous h, hopens⟩

/-! ## The mapping -/

/-- **A component is read as the C# text of its code section**, further down by the lines
before it. -/
theorem CodeSection.mapping_eq {source : String} (found : CodeSection source)
    (parse : String → CSharp.SyntaxNode) (options : MapOptions) :
    mapping parse source options
      = (CSharp.mapping parse (found.code options.componentName) options).shift found.start := by
  rw [mapping, found.section?_eq]
  dsimp only
  have hretells :=
    CSharp.Reading.retells_shift { showSignatures := options.showSignatures } found.start
  rw [Nat.zero_add] at hretells
  exact hretells.mapping_eq _

end Razor

/-- **What a component declares**, for every parser. The text is taken apart at the first line
that opens a code section, if there is one. What the section declares as C# text is then
all there is, each line of it moved down by the lines before the section; and without such a
line there is nothing. -/
theorem component_mapping_eq_code_section (parse : String → CSharp.SyntaxNode) (source : String)
    (options : MapOptions) :
    (∀ found : Razor.CodeSection source,
      Language.razor.mapping parse source options
          = (Language.csharp.mapping parse (found.code options.componentName) options).shift
            found.start
        ∧ (Language.razor.mapping parse source options).codeStartLine = some found.start)
    ∧ ((∃ line ∈ Text.lines source, Nonempty (Razor.Opening line))
      → Nonempty (Razor.CodeSection source))
    ∧ ((∀ line ∈ Text.lines source, IsEmpty (Razor.Opening line))
      → Language.razor.mapping parse source options = {}) := by
  refine ⟨?_, ?_, ?_⟩
  · intro found
    have hmapping := found.mapping_eq parse options
    refine ⟨hmapping, ?_⟩
    rw [Language.mapping, hmapping]
    simp [CSharp.mapping, CSharp.Reading.mapping, Mapping.shift, Mapping.retold]
  · intro hopens
    obtain ⟨earlier, line, later, hlines, hearlier, ⟨opening⟩⟩ := Razor.exists_first_opening hopens
    exact ⟨⟨earlier, line, later, hlines, hearlier, opening⟩⟩
  · intro hlines
    rw [Language.mapping, Razor.mapping, Razor.section?_eq_none hlines]

/-- A component with one line of markup before its code section. The parser knows no other
text than the one with the head of a class in it. -/
theorem component_mapping_eq_of_counter :
    let info (kind : CSharp.NodeKind) (role : Option CSharp.Role) (first last : Nat)
        (text : String) : CSharp.NodeInfo :=
      { kind := kind, role := role, start := { row := first }, stop := { row := last },
        text := text }
    let name (row : Nat) (text : String) : CSharp.SyntaxNode :=
      .node (info .identifier (some .name) row row text) []
    let tree : CSharp.SyntaxNode := .node (info .unit none 0 2 "")
      [.node (info .classDeclaration none 0 2 "")
        [name 0 "Counter", .node (info .body (some .body) 0 2 "")
          [.node (info .methodDeclaration none 1 1 "") [name 1 "Add"],
            .node (info .unreadable none 2 2 "") []]]]
    let source := "<p>0</p>\n  @code \x7b\nvoid Add() \x7b \x7d\n?\x7d"
    let code := "  public class Counter \x7b\nvoid Add() \x7b \x7d\n?\x7d"
    let parse (text : String) : CSharp.SyntaxNode :=
      if text = code then tree else .node (info .unit none 0 0 "") []
    let options : MapOptions := { componentName := "Counter" }
    let mapping := Language.razor.mapping parse source options
    mapping = (Language.csharp.mapping parse code options).shift 1
      ∧ (mapping.members.entries.map fun entry => (entry.name, entry.startLine, entry.endLine))
        = [("Counter", 1, some 3), ("Add", 2, some 2)]
      ∧ mapping.errors.map (·.line) = [3]
      ∧ mapping.codeStartLine = some 1 := by
  intro info name tree source code parse options mapping
  have hmarkup : IsEmpty (Razor.Opening "<p>0</p>".toList) := by
    rw [← not_nonempty_iff, Razor.nonempty_opening_iff]
    decide +kernel
  obtain ⟨found, hnumber, hcode⟩ : ∃ found : Razor.CodeSection source,
      found.start = 1 ∧ found.code options.componentName = code := by
    let opening : Razor.Opening "  @code \x7b".toList :=
      ⟨[' ', ' '], "@code", [' ', '\x7b'], rfl, by simp [Text.isBlank], by decide, by decide⟩
    exact ⟨⟨["<p>0</p>".toList], _, ["void Add() \x7b \x7d".toList, "?\x7d".toList], by cbv,
      by simpa using hmarkup, opening⟩, rfl, by cbv⟩
  obtain ⟨hmapping, hstart⟩ := (component_mapping_eq_code_section parse source options).1 found
  rw [hnumber, hcode] at hmapping
  rw [hnumber] at hstart
  have hparse : parse code = tree := if_pos rfl
  change mapping = _ at hmapping
  refine ⟨hmapping, ?_, ?_, hstart⟩
  · rw [hmapping, Language.mapping, CSharp.mapping, hparse]
    cbv
  · rw [hmapping, Language.mapping, CSharp.mapping, hparse]
    cbv

end SourceOutline
