/-
Which language an extension stands for, and which one a source is read as.

A registry is made by binding extensions one after the other, and it answers with the last
binding of the extension asked for (`Registry.resolve_registerAll_eq_some_iff`). What a
generator does with a source depends on this answer alone: `Generator.ReadsAs` says that the
source is refused if there is no language, and otherwise that no other language's mapper is
ever called.

The hint that comes with a text loses its blanks and full stops before the registry is
asked, and then once more. This makes no difference unless blanks stand behind the full
stops (`bareExtension_bareExtension`), so a text is read as the language of its hint
(`hint_read_as_last_binding`). With blanks there, it may be read as a language that the
registry does not give for the hint (`hint_read_as_other_extension`).
-/
import Mathlib.Data.List.DropRight
import SourceOutline.Proofs.Dictionary
import SourceOutline.Proofs.Generation
import SourceOutline.Proofs.Substrings

set_option autoImplicit false

namespace SourceOutline

/-! ## The last binding -/

namespace Registry

/-- The last of some bindings for an extension is to a language. -/
def LastBinding (bindings : List (String × Language)) (extension : String)
    (language : Language) : Prop :=
  ∃ before bound after, bindings = before ++ (bound, language) :: after
    ∧ normalizeExtension bound = normalizeExtension extension
    ∧ ∀ binding ∈ after, normalizeExtension binding.1 ≠ normalizeExtension extension

theorem resolve_register (registry : Registry) (bound : String) (language : Language)
    (extension : String) :
    (registry.register bound language).resolve extension
      = if normalizeExtension bound = normalizeExtension extension then some language
        else registry.resolve extension := by
  rw [register, resolve, Dictionary.find?_insert, resolve]
  simp only [eq_comm (a := normalizeExtension extension)]

/-- Bindings of other extensions change nothing. -/
theorem resolve_registerAll_of_ne (registry : Registry) {bindings : List (String × Language)}
    {extension : String}
    (h : ∀ binding ∈ bindings, normalizeExtension binding.1 ≠ normalizeExtension extension) :
    (registry.registerAll bindings).resolve extension = registry.resolve extension := by
  induction bindings generalizing registry with
  | nil => rfl
  | cons binding rest ih =>
    rw [List.forall_mem_cons] at h
    have hrest := ih (registry.register binding.1 binding.2) h.2
    rwa [resolve_register, if_neg h.1] at hrest

theorem resolve_of_lastBinding (registry : Registry) {bindings : List (String × Language)}
    {extension : String} {language : Language} (h : LastBinding bindings extension language) :
    (registry.registerAll bindings).resolve extension = some language := by
  obtain ⟨before, bound, after, rfl, hbound, hafter⟩ := h
  have hlater := resolve_registerAll_of_ne
    ((registry.registerAll before).register bound language) hafter
  rw [resolve_register, if_pos hbound] at hlater
  rw [registerAll, List.foldl_append]
  exact hlater

theorem unbound_or_lastBinding (bindings : List (String × Language)) (extension : String) :
    (∀ binding ∈ bindings, normalizeExtension binding.1 ≠ normalizeExtension extension)
      ∨ ∃ language, LastBinding bindings extension language := by
  induction bindings with
  | nil => exact .inl (List.forall_mem_nil _)
  | cons binding rest ih =>
    rcases ih with hnone | ⟨language, before, bound, after, rfl, hbound, hafter⟩
    · by_cases hbinding : normalizeExtension binding.1 = normalizeExtension extension
      · exact .inr ⟨binding.2, [], binding.1, rest, rfl, hbinding, hnone⟩
      · exact .inl (List.forall_mem_cons.2 ⟨hbinding, hnone⟩)
    · exact .inr ⟨language, binding :: before, bound, after, rfl, hbound, hafter⟩

theorem resolve_registerAll_eq_some_iff {bindings : List (String × Language)}
    {extension : String} {language : Language} :
    (empty.registerAll bindings).resolve extension = some language
      ↔ LastBinding bindings extension language := by
  refine ⟨fun h => ?_, resolve_of_lastBinding empty⟩
  rcases unbound_or_lastBinding bindings extension with hnone | ⟨language', hlast⟩
  · rw [resolve_registerAll_of_ne empty hnone] at h
    cases h
  · rw [resolve_of_lastBinding empty hlast] at h
    cases h
    exact hlast

theorem resolve_registerAll_eq_none_iff {bindings : List (String × Language)}
    {extension : String} :
    (empty.registerAll bindings).resolve extension = none
      ↔ ∀ binding ∈ bindings, normalizeExtension binding.1 ≠ normalizeExtension extension := by
  refine ⟨fun h => ?_, resolve_registerAll_of_ne empty⟩
  rcases unbound_or_lastBinding bindings extension with hnone | ⟨language, hlast⟩
  · exact hnone
  · rw [resolve_of_lastBinding empty hlast] at h
    cases h

end Registry

/-! ## The language of a source -/

variable {σ : Type}

/-- A generator takes a source for a text of the given language, or of none. -/
structure Generator.ReadsAs (generator : Generator σ) (source : Source)
    (language : Option Language) : Prop where
  /-- It refuses the source exactly if there is no language. -/
  refused_iff : ∀ options world,
    (∃ extension after,
      generator.generate source options world = (.unsupported extension, after))
      ↔ language = none
  /-- Every outline of the source is one of that language. -/
  of_ready : ∀ options world outline after,
    generator.generate source options world = (.ready outline, after) →
    language = some outline.language
  /-- It asks for no mapper but that of the language. -/
  factory_congr : ∀ factory : MapperFactory σ,
    (∀ known, language = some known → factory known = generator.factory known) →
    ∀ options world, { generator with factory := factory }.generate source options world
      = generator.generate source options world

namespace Generator

theorem retry_congr {generator : Generator σ} {factory : MapperFactory σ} {language : Language}
    (h : factory language = generator.factory language) (source : Source) (options : Options)
    (message : String) (made left : Nat) (world : World σ) :
    { generator with factory := factory }.retry source language options message made left world
      = generator.retry source language options message made left world := by
  have hattempt : ∀ world, { generator with factory := factory }.attempt source language options world
      = generator.attempt source language options world := by
    intro world
    simp only [attempt, callMapper, h]
  induction left generalizing message made world with
  | zero => rfl
  | succ left ih =>
    rw [retry, retry, hattempt]
    cases generator.attempt source language options world with
    | mk result world' =>
      cases result with
      | ok outline => rfl
      | error error => exact ih error.message (made + 1) world'

/-- The registry decides what a source is read as. -/
theorem readsAs_resolve (generator : Generator σ) (source : Source) :
    generator.ReadsAs source (generator.registry.resolve source.extension) where
  refused_iff options world := by
    constructor
    · rintro ⟨extension, after, hrefused⟩
      cases hlanguage : generator.registry.resolve source.extension with
      | none => rfl
      | some language =>
        rw [generate, hlanguage] at hrefused
        rcases retry_cases hlanguage .none "" (max generator.maxAttempts 1) with
          ⟨run, hready⟩ | ⟨message, memory, -, hfailed⟩
        · cases hready.symm.trans hrefused
        · cases hfailed.symm.trans hrefused
    · intro hnone
      exact ⟨source.extension, world, by rw [generate, hnone]⟩
  of_ready options world outline after hready := by
    obtain ⟨run, rfl, -⟩ := generate_ready hready
    exact run.resolved
  factory_congr factory hfactory options world := by
    cases hlanguage : generator.registry.resolve source.extension with
    | none => rw [generate, generate, hlanguage]
    | some language =>
      rw [generate, generate, hlanguage]
      exact retry_congr (hfactory language hlanguage) source options "" 0 _ world

end Generator

/-! ## Hints -/

/-- Taking off blanks and full stops a second time changes nothing, unless the first time
leaves a blank in front. -/
theorem bareExtension_bareExtension {hint : String}
    (h : ∀ c ∈ (bareExtension hint).toList.head?, Text.isBlank c = false) :
    bareExtension (bareExtension hint) = bareExtension hint := by
  have hend : Text.trimEnd (bareExtension hint).toList = (bareExtension hint).toList := by
    apply Text.trimEnd_of_suffix_trim
    rw [bareExtension, String.toList_ofList]
    exact List.dropWhile_suffix _
  rw [bareExtension, Text.trim, Text.trimStart_eq_self h, hend, bareExtension,
    String.toList_ofList, List.dropWhile_idempotent _ _]

/-- **The language of an extension hint.** A registry answers with the last binding of an
extension that is compared as equal, and with nothing if there is none. A text is read as the
language the registry gives for its hint without blanks around it and full stops before it,
which is the language it gives for the hint, unless blanks stand behind the full stops. -/
theorem hint_read_as_last_binding (generator : Generator σ) (bindings : List (String × Language))
    (hregistry : generator.registry = Registry.empty.registerAll bindings) (hint : String) :
    (∀ language, generator.registry.resolve hint = some language
      ↔ Registry.LastBinding bindings hint language)
    ∧ (generator.registry.resolve hint = none
      ↔ ∀ binding ∈ bindings, normalizeExtension binding.1 ≠ normalizeExtension hint)
    ∧ (∀ content name, generator.ReadsAs (.text content hint name)
      (generator.registry.resolve (bareExtension hint)))
    ∧ ((∀ c ∈ (bareExtension hint).toList.head?, Text.isBlank c = false) →
      ∀ content name, generator.ReadsAs (.text content hint name)
        (generator.registry.resolve hint)) := by
  have hread : ∀ content name, generator.ReadsAs (.text content hint name)
      (generator.registry.resolve (bareExtension hint)) :=
    fun content name => generator.readsAs_resolve (.text content hint name)
  refine ⟨fun language => ?_, ?_, hread, fun hblank content name => ?_⟩
  · rw [hregistry]
    exact Registry.resolve_registerAll_eq_some_iff
  · rw [hregistry]
    exact Registry.resolve_registerAll_eq_none_iff
  · have hsame : generator.registry.resolve (bareExtension hint)
        = generator.registry.resolve hint := by
      rw [Registry.resolve, Registry.resolve, normalizeExtension, normalizeExtension,
        bareExtension_bareExtension hblank]
    exact hsame ▸ hread content name

/-- The extension is bound twice, in two spellings, and a third one finds the later binding. -/
theorem hint_read_as_last_binding_of_two :
    let bindings := [("py", Language.css), (" .PY", Language.python)]
    let generator := { Generator.ofMembers [] with registry := Registry.empty.registerAll bindings }
    Registry.LastBinding bindings " ..Py " .python
      ∧ generator.ReadsAs (.text "" " ..Py " none) (some .python) := by
  intro bindings generator
  obtain ⟨hbound, -, -, hread⟩ := hint_read_as_last_binding generator bindings rfl " ..Py "
  have hresolve : generator.registry.resolve " ..Py " = some .python := by decide +kernel
  have hbare : (bareExtension " ..Py ").toList.head? = some 'P' := by decide +kernel
  have hblank : ∀ c ∈ (bareExtension " ..Py ").toList.head?, Text.isBlank c = false := by
    rw [hbare]
    rintro _ ⟨⟩
    rfl
  exact ⟨(hbound .python).1 hresolve, hresolve ▸ hread hblank "" none⟩

/-- **A hint that is read as another extension.** No binding is for `. py`, since a blank is
left in front when the full stop is taken off. The text with that hint is read as Python all
the same: its blank is taken off before the registry is asked. -/
theorem hint_read_as_other_extension :
    let generator := Generator.ofMembers []
    generator.registry = Registry.empty.registerAll [("py", .python)]
      ∧ normalizeExtension "py" ≠ normalizeExtension ". py"
      ∧ generator.registry.resolve ". py" = none
      ∧ ∀ options world, ∃ outline after,
        generator.generate (.text "" ". py" none) options world = (.ready outline, after)
        ∧ outline.language = .python := by
  intro generator
  refine ⟨rfl, by decide +kernel, by decide +kernel, fun options world => ?_⟩
  have hresolve : generator.registry.resolve (Source.text "" ". py" none).extension
      = some .python := by decide +kernel
  rw [Generator.generate, hresolve]
  exact ⟨_, _, rfl, rfl⟩

end SourceOutline
