/-
Every mapper of the library keeps the contract.

Three kinds of mappers have nothing in common but what they give back: a walk through a
syntax tree, a scan by indentation, and a filter on lines. For the first two the work is
done in the modules on trees and on scans; what is left is that no line is classified as
a region marker, and the style sheets.

A text in C# is read by a parser that stands for any other, so the statements leave it
open (`Language.mapping`). The ancestries are right whatever the parser makes of a text.
The lines are right if it gives back a tree in document order.

None of these mappers ever gives up, so a request made with them has nothing to repeat:
`Generator.generate_first` and `Completion.forest_eq` say what it comes to.
-/
import Mathlib
import SourceOutline.Mappers
import SourceOutline.Proofs.Declarations
import SourceOutline.Proofs.Generation
import SourceOutline.Proofs.LineScan
import SourceOutline.Proofs.Scan

set_option autoImplicit false

namespace SourceOutline

/-! ## Lines of code are no markers -/

namespace Python

theorem unmarked_classLine {line : List Char} {declaration : LineScan.Declaration}
    (h : classLine line = .declaration declaration) : declaration.kind ≠ .region := by
  rw [classLine] at h
  split at h
  · cases h
  · cases h
    simp

theorem unmarked_defLine {showSignatures : Bool} {pending : Pending} {line : List Char}
    {declaration : LineScan.Declaration}
    (h : defLine showSignatures pending line = .declaration declaration) :
    declaration.kind ≠ .region := by
  rw [defLine.eq_def] at h
  dsimp only at h
  split at h
  · cases h
  · cases pending with
    | accessor => cases h
    | property =>
      cases h
      simp
    | none =>
      cases h
      simp

theorem unmarked_classifier (showSignatures : Bool) : (classifier showSignatures).Unmarked := by
  intro pending line declaration h
  have hline : (classify showSignatures pending line).1 = .declaration declaration := h
  rw [classify] at hline
  split at hline
  · cases hline
  · split at hline
    · cases hline
    · split at hline
      · exact unmarked_classLine hline
      · split at hline
        · exact unmarked_defLine hline
        · cases hline

end Python

namespace Script

theorem unmarked_type? {text : List Char} {declaration : LineScan.Declaration}
    (h : type? text = some declaration) : declaration.kind ≠ .region := by
  obtain ⟨found, -, h⟩ := Option.bind_eq_some_iff.1 h
  obtain ⟨keyword, -, h⟩ := Option.bind_eq_some_iff.1 h
  obtain ⟨name, -, h⟩ := Option.bind_eq_some_iff.1 h
  cases h
  dsimp only
  split <;> simp

theorem unmarked_function? {showSignatures : Bool} {text : List Char}
    {declaration : LineScan.Declaration}
    (h : function? showSignatures text = some declaration) : declaration.kind ≠ .region := by
  obtain ⟨idiom, -, h⟩ := List.exists_of_findSome?_eq_some h
  obtain ⟨found, -, h⟩ := Option.bind_eq_some_iff.1 h
  obtain ⟨name, -, h⟩ := Option.bind_eq_some_iff.1 h
  by_cases hrefused : (!idiom.accepts text name) = true
  · rw [if_pos hrefused] at h
    cases h
  · rw [if_neg hrefused] at h
    cases h
    dsimp only
    split <;> simp

theorem unmarked_classifier (showSignatures : Bool) : (classifier showSignatures).Unmarked := by
  intro memory line declaration h
  have hline : classify showSignatures line = .declaration declaration := h
  rw [classify] at hline
  dsimp only at hline
  split at hline
  · cases hline
  · split at hline
    · rename_i found hfound
      cases hline
      rcases Option.or_eq_some_iff.1 hfound with htype | ⟨-, hfunction⟩
      · exact unmarked_type? htype
      · exact unmarked_function? hfunction
    · split at hline <;> cases hline

end Script

/-! ## Style sheets -/

namespace Stylesheet

/-- A member stands on its own line, directly in the file. -/
theorem of_member? {number : Nat} {line : List Char} {member : Member}
    (h : member? number line = some member) :
    member.Direct .root ∧ member.Settled ∧ member.startLine = number := by
  obtain ⟨selector, -, rfl⟩ := Option.map_eq_some_iff.1 h
  refine ⟨⟨rfl, by simp [Member.leaf, Member.entry], rfl⟩, .leaf ?_, rfl⟩
  intro last hlast
  cases hlast

/-- **What a style sheet declares is well-formed.** -/
theorem wellFormed_members (source : String) : (members source).WellFormed := by
  have hmember : ∀ member ∈ members source, member.Direct .root ∧ member.Settled := by
    intro member hmember
    obtain ⟨line, -, hline⟩ := List.mem_filterMap.1 hmember
    exact ⟨(of_member? hline).1, (of_member? hline).2.1⟩
  refine Forest.Listed.wellFormed ?_ ?_ fun member h => (hmember member h).2
  · exact fun member h => (hmember member h).1.listed _
  · refine List.pairwise_filterMap.2 ((Text.pairwise_numbered 0 _).1.imp ?_)
    intro first second hlt member hfirst member' hsecond
    rw [(of_member? hfirst).2.2, (of_member? hsecond).2.2]
    exact Nat.le_of_lt hlt

end Stylesheet

/-! ## All languages -/

/-- What a text of a language declares, given a way to read C#. -/
def Language.mapping (parse : String → CSharp.SyntaxNode) :
    Language → String → MapOptions → Mapping
  | .csharp => CSharp.mapping parse
  | .razor => Razor.mapping parse
  | .python => fun source options => .wholeFile (Python.members options.showSignatures source)
  | .javascript | .typescript => fun source options =>
      .wholeFile (Script.members options.showSignatures source)
  | .css => fun source _ => .wholeFile (Stylesheet.members source)

/-- The mapper of a language with another way to read C#. -/
def Language.mapperWith {σ : Type} (parse : String → CSharp.SyntaxNode) (language : Language) :
    Mapper σ :=
  { (language.mapper : Mapper σ) with
    map := fun source options memory => (.ok (language.mapping parse source options), memory) }

/-- The mappers of the library are those with its own parser. -/
theorem Language.mapper_eq {σ : Type} (language : Language) :
    (language.mapper : Mapper σ) = language.mapperWith CSharp.parse := by
  cases language <;> rfl

/-- Whether a language is read through a syntax tree. -/
def Language.readsTree : Language → Bool
  | .csharp | .razor => true
  | .python | .javascript | .typescript | .css => false

/-- The members are listed as a mapper has to, whatever the parser does. -/
theorem Language.listed_mapping (parse : String → CSharp.SyntaxNode) (language : Language)
    (source : String) (options : MapOptions) :
    (language.mapping parse source options).members.Listed := by
  cases language with
  | csharp => exact CSharp.Reading.listed_mapping _ _
  | razor =>
    rw [Language.mapping, Razor.mapping]
    split
    · exact CSharp.Reading.listed_mapping _ _
    · exact List.forall_mem_nil _
  | python => exact (LineScan.wellFormed_forest (Python.unmarked_classifier _) source).listed
  | javascript | typescript =>
    exact (LineScan.wellFormed_forest (Script.unmarked_classifier _) source).listed
  | css => exact (Stylesheet.wellFormed_members source).listed

/-- **The forest of a mapper is well-formed**, for every language and every text, with the
parser of the library or any other. A parser is only asked for trees in document order. -/
theorem mapped_forest_wellFormed {σ : Type} :
    (∀ language : Language, (language.mapper : Mapper σ) = language.mapperWith CSharp.parse)
    ∧ ∀ (parse : String → CSharp.SyntaxNode) (language : Language),
      (language.readsTree = true → ∀ text, (parse text).InDocumentOrder) →
      ∀ (source : String) (options : MapOptions) (memory : σ),
      ∃ mapping, (language.mapperWith parse).map source options memory = (.ok mapping, memory)
        ∧ mapping.members.WellFormed := by
  refine ⟨Language.mapper_eq, ?_⟩
  intro parse language horder source options memory
  refine ⟨language.mapping parse source options, rfl, ?_⟩
  cases language with
  | csharp => exact CSharp.Reading.wellFormed_mapping _ (horder rfl source)
  | razor =>
    rw [Language.mapping, Razor.mapping]
    split
    · exact CSharp.Reading.wellFormed_mapping _ (horder rfl _)
    · exact Forest.Listed.wellFormed (List.forall_mem_nil _) .nil (List.forall_mem_nil _)
  | python => exact LineScan.wellFormed_forest (Python.unmarked_classifier _) source
  | javascript | typescript =>
    exact LineScan.wellFormed_forest (Script.unmarked_classifier _) source
  | css => exact Stylesheet.wellFormed_members source

/-- A class inside a class, with a function before them that stands outside every type. -/
theorem mapped_forest_wellFormed_of_nested_classes :
    let info (kind : CSharp.NodeKind) (role : Option CSharp.Role) (first last : Nat)
        (text : String) : CSharp.NodeInfo :=
      { kind := kind, role := role, start := { row := first }, stop := { row := last },
        text := text }
    let name (row : Nat) (text : String) : CSharp.SyntaxNode :=
      .node (info .identifier (some .name) row row text) []
    let inner : CSharp.SyntaxNode := .node (info .structDeclaration none 4 5 "") [name 4 "Inner"]
    let outer : CSharp.SyntaxNode := .node (info .classDeclaration none 2 6 "")
      [name 2 "Outer", .node (info .body (some .body) 2 6 "")
        [.node (info .methodDeclaration none 3 3 "") [name 3 "run"], inner]]
    let statement : CSharp.SyntaxNode := .node (info .globalStatement none 0 1 "")
      [.node (info .localFunction none 0 1 "") [name 0 "main"]]
    let tree : CSharp.SyntaxNode := .node (info .unit none 0 6 "") [statement, outer]
    let text := "void main() \x7b\n\x7d\nclass Outer \x7b\nvoid run() \x7b \x7d\n"
      ++ "struct Inner \x7b\n\x7d\n\x7d"
    let mapper : Mapper Unit := Language.csharp.mapperWith fun _ => tree
    tree.InDocumentOrder
    ∧ ∃ mapping, mapper.map text {} () = (.ok mapping, ())
      ∧ (mapping.members.entries.map fun entry => (entry.name, entry.parent.types))
        = [("<global>", []), ("main", ["<global>"]), ("Outer", []), ("run", ["Outer"]),
          ("Inner", ["Outer"])]
      ∧ mapping.members.WellFormed := by
  intro info name inner outer statement tree text mapper
  have horder : tree.InDocumentOrder := ⟨by decide +kernel, by decide +kernel⟩
  obtain ⟨mapping, hmapping, hwellFormed⟩ :=
    mapped_forest_wellFormed.2 (fun _ => tree) .csharp (fun _ _ => horder) text {} ()
  refine ⟨horder, mapping, hmapping, ?_, hwellFormed⟩
  cases hmapping
  cbv

/-! ## Requests

A mapper of the library never gives up, so a request for a source that can be read is
complete at the first attempt. -/

/-- The mappers of the library with another way to read C#. -/
def factoryWith {σ : Type} (parse : String → CSharp.SyntaxNode) : MapperFactory σ :=
  fun language memory => (.ok (language.mapperWith parse), memory)

theorem standardFactory_eq {σ : Type} :
    (standardFactory : MapperFactory σ) = factoryWith CSharp.parse := by
  funext language memory
  rw [standardFactory, Language.mapper_eq]
  rfl

section Requests

variable {σ : Type} {parse : String → CSharp.SyntaxNode} {generator : Generator σ}
  {source : Source} {language : Language} {text : String} {world : World σ}

theorem Generator.callMapper_eq (hfactory : generator.factory = factoryWith parse)
    (language : Language) (text : String) (options : MapOptions) (memory : σ) :
    generator.callMapper language text options memory
      = (.ok (language.mapperWith parse, language.mapping parse text options), memory) := by
  rw [Generator.callMapper, hfactory]
  rfl

/-- The first attempt. -/
def Completion.first (hfactory : generator.factory = factoryWith parse)
    (hlanguage : generator.registry.resolve source.extension = some language)
    (hread : source.read world.disk = .ok text) (options : Options) :
    Completion generator source options world where
  language := language
  resolved := hlanguage
  failures := 0
  memory := world.memory
  failed := .none
  text := text
  read := hread
  mapper := language.mapperWith parse
  mapping := language.mapping parse text (Generator.mapOptions source options)
  memoryAfter := world.memory
  mapped := Generator.callMapper_eq hfactory language text _ world.memory

theorem Generator.generate_first (hfactory : generator.factory = factoryWith parse)
    (hlanguage : generator.registry.resolve source.extension = some language)
    (hread : source.read world.disk = .ok text) (options : Options) :
    generator.generate source options world
      = (.ready (Completion.first hfactory hlanguage hread options).outline,
        (Completion.first hfactory hlanguage hread options).worldAfter) := by
  have hattempt : generator.attempt source language options world = _ :=
    attempt_eq_of_completion (Completion.first hfactory hlanguage hread options)
  -- There is at least one attempt, whatever the limit is.
  have htries : max generator.maxAttempts 1 = max generator.maxAttempts 1 - 1 + 1 := by omega
  rw [generate, hlanguage, htries]
  dsimp only
  rw [retry, hattempt]
  rfl

/-- So there is nothing else that an outline can come from. -/
theorem Generator.eq_first_of_generate (hfactory : generator.factory = factoryWith parse)
    (hlanguage : generator.registry.resolve source.extension = some language)
    (hread : source.read world.disk = .ok text) {options : Options} {outline : Outline}
    {after : World σ} (h : generator.generate source options world = (.ready outline, after)) :
    outline = (Completion.first hfactory hlanguage hread options).outline
      ∧ after = (Completion.first hfactory hlanguage hread options).worldAfter := by
  rw [generate_first hfactory hlanguage hread] at h
  cases h
  exact ⟨rfl, rfl⟩

/-- Whatever a request went through, its members are those that the mapper of the language
finds in the text. -/
theorem Completion.forest_eq (hfactory : generator.factory = factoryWith parse)
    (hlanguage : generator.registry.resolve source.extension = some language)
    (hread : source.read world.disk = .ok text) {options : Options}
    (run : Completion generator source options world) :
    run.forest = (language.mapping parse text (Generator.mapOptions source options)).identified
      (language.mapperWith parse : Mapper σ).markers text generator.tokens := by
  have hlanguage' : run.language = language := by
    have hresolved := run.resolved
    rw [hlanguage] at hresolved
    exact (Option.some.inj hresolved).symm
  have htext : run.text = text := by
    have hread' := run.read
    rw [hread] at hread'
    exact (Except.ok.inj hread').symm
  have hmapped := run.mapped
  rw [Generator.callMapper_eq hfactory, hlanguage', htext] at hmapped
  simp only [Prod.mk.injEq, Except.ok.injEq] at hmapped
  obtain ⟨⟨hmapper, hmapping⟩, -⟩ := hmapped
  rw [Completion.forest, ← hmapper, ← hmapping, htext]

end Requests

end SourceOutline
