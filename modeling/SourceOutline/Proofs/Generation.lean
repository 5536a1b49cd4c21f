/-
What a request for an outline goes through. An attempt fails at one of three
places: the source cannot be read, there is no mapper, or the mapper gives up. In
each case only the memory of the mappers has changed (`attempt_cases`). So a
request is a row of failures, during which disk and store stand still, and then
either one attempt that succeeds or the end of the patience.

`Fails` is that row of failures, and a `Completion` is a successful attempt behind
one. Everything an outline shows and everything a request leaves behind is a
function of the completion, `Completion.outline` and `Completion.worldAfter`; the
theorems `generate_ready` and `generate_frame` say that there is nothing else.
-/
import SourceOutline.Generator
import SourceOutline.Proofs.Forest

set_option autoImplicit false

namespace SourceOutline

/-- Colors leave identities alone. -/
theorem Forest.ids_joinColors (forest : Forest) (bookmarks : Bookmarks) (key : Option String) :
    (forest.joinColors bookmarks key).ids = forest.ids := by
  cases key with
  | none => rfl
  | some key =>
    rw [Forest.joinColors, Forest.ids, Forest.entries_mapEntries, List.map_map]
    rfl

variable {σ : Type}

/-! ## Attempts -/

namespace Generator

/-- Attempts that failed one after the other, with their number and what the mappers
remember after them. Disk and store are those of the world at the start. -/
inductive Fails (generator : Generator σ) (source : Source) (language : Language)
    (options : Options) (world : World σ) : Nat → σ → Prop where
  | none : Fails generator source language options world 0 world.memory
  | again {count : Nat} {memory memory' : σ} {error : AttemptError}
      (earlier : Fails generator source language options world count memory)
      (failure : generator.attempt source language options { world with memory := memory }
        = (.error error, { world with memory := memory' })) :
      Fails generator source language options world (count + 1) memory'

end Generator

/-- A successful attempt at the outline of a source, after some that failed. -/
structure Completion (generator : Generator σ) (source : Source) (options : Options)
    (world : World σ) where
  language : Language
  resolved : generator.registry.resolve source.extension = some language
  /-- How many attempts failed before. -/
  failures : Nat
  /-- What the mappers remember after the failures. -/
  memory : σ
  failed : generator.Fails source language options world failures memory
  text : String
  read : source.read world.disk = .ok text
  mapper : Mapper σ
  mapping : Mapping
  /-- What the mappers remember after this attempt. -/
  memoryAfter : σ
  mapped : generator.callMapper language text (Generator.mapOptions source options) memory
    = (.ok (mapper, mapping), memoryAfter)

namespace Completion

variable {generator : Generator σ} {source : Source} {options : Options} {world : World σ}

/-- All members of the source with their region markers and identities, whether or
not they are shown. -/
def forest (run : Completion generator source options world) : Forest :=
  run.mapping.identified run.mapper.markers run.text generator.tokens

/-- The items of the outline. -/
def items (run : Completion generator source options world) : List Item :=
  (run.forest.joinColors world.store.bookmarks source.fileKey?).nest.emit options
    run.mapper.encodesContainment

/-- The outline. -/
def outline (run : Completion generator source options world) : Outline where
  path := source.path?
  language := run.language
  totalLines := (Text.lines run.text).length
  items := run.items
  errors := run.mapping.errors
  attempts := run.failures + 1
  metadata := generator.stamp

/-- What the request leaves behind. -/
def worldAfter (run : Completion generator source options world) : World σ :=
  Generator.purge source run.forest.ids { world with memory := run.memoryAfter }

end Completion

namespace Generator

/-- An attempt fails and changes nothing but the memory of the mappers, or it is
complete. -/
theorem attempt_cases (generator : Generator σ) (source : Source) (language : Language)
    (options : Options) (world : World σ) :
    (∃ error memory, generator.attempt source language options world
        = (.error error, { world with memory := memory }))
    ∨ ∃ text mapper mapping memory,
        source.read world.disk = .ok text
        ∧ generator.callMapper language text (mapOptions source options) world.memory
            = (.ok (mapper, mapping), memory) := by
  rw [attempt]
  cases hread : source.read world.disk with
  | error error => exact .inl ⟨.file error, world.memory, rfl⟩
  | ok text =>
    rcases hmap : generator.callMapper language text (mapOptions source options) world.memory with
      ⟨error | found, memory⟩
    · exact .inl ⟨error, memory, by simp only [hmap]⟩
    · exact .inr ⟨text, found.1, found.2, memory, rfl, hmap⟩

/-- A complete attempt gives the outline and the world of its completion, but for the
count of attempts. -/
theorem attempt_eq_of_completion {generator : Generator σ} {source : Source} {options : Options}
    {world : World σ} (run : Completion generator source options world) :
    generator.attempt source run.language options { world with memory := run.memory }
      = (.ok { run.outline with attempts := 1 }, run.worldAfter) := by
  rw [attempt]
  simp only [run.read, run.mapped]
  rw [Forest.ids_joinColors]
  rfl

/-! ## Requests -/

/-- After some failures, trying further either completes or fails as often as it is
allowed to. -/
theorem retry_cases {generator : Generator σ} {source : Source} {language : Language}
    {options : Options} {world : World σ}
    (hlanguage : generator.registry.resolve source.extension = some language)
    {made : Nat} {memory : σ} (hfails : generator.Fails source language options world made memory)
    (message : String) (left : Nat) :
    (∃ run : Completion generator source options world,
      generator.retry source language options message made left { world with memory := memory }
        = (.ready run.outline, run.worldAfter))
    ∨ ∃ message' memory', generator.Fails source language options world (made + left) memory'
      ∧ generator.retry source language options message made left { world with memory := memory }
        = (.failed message' (made + left), { world with memory := memory' }) := by
  -- The failures so far are carried along, so a completion found later counts them all.
  induction left generalizing made memory message with
  | zero => exact .inr ⟨message, memory, hfails, rfl⟩
  | succ left ih =>
    rcases generator.attempt_cases source language options { world with memory := memory } with
      ⟨error, memory', hfail⟩ | ⟨text, mapper, mapping, memory', hread, hmap⟩
    · have hrest := ih (hfails.again hfail) error.message
      rw [Nat.add_assoc, Nat.add_comm 1 left] at hrest
      rw [retry, hfail]
      exact hrest
    · let run : Completion generator source options world :=
        ⟨language, hlanguage, made, memory, hfails, text, hread, mapper, mapping, memory', hmap⟩
      refine .inl ⟨run, ?_⟩
      have hattempt := attempt_eq_of_completion run
      rw [retry, hattempt]
      rfl

/-- A request for a known language either completes or fails as often as allowed. -/
theorem generate_cases (generator : Generator σ) (source : Source) (options : Options)
    (world : World σ) :
    generator.generate source options world = (.unsupported source.extension, world)
    ∨ (∃ run : Completion generator source options world,
        generator.generate source options world = (.ready run.outline, run.worldAfter))
    ∨ ∃ language message memory,
        generator.Fails source language options world (max generator.maxAttempts 1) memory
        ∧ generator.generate source options world
          = (.failed message (max generator.maxAttempts 1), { world with memory := memory }) := by
  rw [generate]
  cases hlanguage : generator.registry.resolve source.extension with
  | none => exact .inl rfl
  | some language =>
    refine .inr ?_
    rcases retry_cases hlanguage .none "" (max generator.maxAttempts 1) with
      hready | ⟨message, memory, hfails, hretry⟩
    · exact .inl hready
    · rw [Nat.zero_add] at hfails hretry
      exact .inr ⟨language, message, memory, hfails, hretry⟩

/-- An outline comes from a completion, and so does the world after it. -/
theorem generate_ready {generator : Generator σ} {source : Source} {options : Options}
    {world after : World σ} {outline : Outline}
    (h : generator.generate source options world = (.ready outline, after)) :
    ∃ run : Completion generator source options world,
      outline = run.outline ∧ after = run.worldAfter := by
  rcases generator.generate_cases source options world with hnone | ⟨run, hrun⟩ | ⟨_, _, _, _, hfail⟩
  · rw [hnone] at h
    cases h
  · rw [hrun] at h
    cases h
    exact ⟨run, rfl, rfl⟩
  · rw [hfail] at h
    cases h

/-- A request without an outline leaves disk and store as they are. -/
theorem generate_frame {generator : Generator σ} {source : Source} {options : Options}
    {world after : World σ} {outcome : Outcome}
    (h : generator.generate source options world = (outcome, after))
    (hnot : ∀ outline, outcome ≠ .ready outline) :
    after.store = world.store ∧ after.disk = world.disk := by
  rcases generator.generate_cases source options world with hnone | ⟨run, hrun⟩ | ⟨_, _, _, _, hfail⟩
  · rw [hnone] at h
    cases h
    exact ⟨rfl, rfl⟩
  · rw [hrun] at h
    cases h
    exact absurd rfl (hnot run.outline)
  · rw [hfail] at h
    cases h
    exact ⟨rfl, rfl⟩

end Generator

/-! ## A generator with a fixed answer

The smallest generator that completes: one extension, one attempt, and a mapper
that finds the same members in every text. Concrete requests are made with it. -/

/-- The generator that finds the given members in every text with the extension
`py`. -/
def Generator.ofMembers (members : Forest) : Generator Unit where
  registry := Registry.empty.register "py" .python
  factory := fun _ memory =>
    (.ok (.ofFunction .hashComment true fun _ _ => .wholeFile members), memory)
  maxAttempts := 1
  tokens := fun _ => "token"
  stamp := { timestamp := "" }

theorem resolve_py :
    (Registry.empty.register "py" .python).resolve (bareExtension "py") = some .python := by
  decide +kernel

/-- Its first attempt is complete. -/
def Completion.ofMembers (members : Forest) (text : String) (name : Option String)
    (options : Options) (world : World Unit) :
    Completion (Generator.ofMembers members) (.text text "py" name) options world where
  language := .python
  resolved := resolve_py
  failures := 0
  memory := world.memory
  failed := .none
  text := text
  read := rfl
  mapper := .ofFunction .hashComment true fun _ _ => .wholeFile members
  mapping := .wholeFile members
  memoryAfter := world.memory
  mapped := rfl

theorem Generator.generate_ofMembers (members : Forest) (text : String) (name : Option String)
    (options : Options) (world : World Unit) :
    (Generator.ofMembers members).generate (.text text "py" name) options world
      = (.ready (Completion.ofMembers members text name options world).outline,
        (Completion.ofMembers members text name options world).worldAfter) := by
  have hattempt := attempt_eq_of_completion (Completion.ofMembers members text name options world)
  rw [generate, (Completion.ofMembers members text name options world).resolved]
  dsimp only
  rw [show max (Generator.ofMembers members).maxAttempts 1 = 0 + 1 from rfl, retry, hattempt]
  rfl

end SourceOutline
