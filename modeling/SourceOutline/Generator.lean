/-
Making an outline: read the source, map it, put region markers in their places,
assign identities, join the bookmarks, nest, and list what the options show.
Afterwards the bookmarks of members that are gone are dropped.

An attempt that fails is repeated as often as the generator allows. An extension
without a language is no failure but an answer of its own, and is not repeated.

Time and chance are arguments: the stamp that every outline gets, and the tokens
for members without a key.
-/
import SourceOutline.Bookmarks.Store
import SourceOutline.Mapping
import SourceOutline.Member.Identity
import SourceOutline.Outline.Emission
import SourceOutline.Outline.Nesting
import SourceOutline.Region.Placement
import SourceOutline.Source

set_option autoImplicit false

namespace SourceOutline

/-- What outlines are made with. -/
structure Generator (σ : Type) where
  registry : Registry
  factory : MapperFactory σ
  /-- How often a source is tried. Zero counts as once. -/
  maxAttempts : Nat
  /-- Tokens for members without a key. -/
  tokens : Nat → String
  /-- What every outline is stamped with. -/
  stamp : Metadata

/-- What outlines are made from and leave behind. -/
structure World (σ : Type) where
  disk : FileTree
  store : Store
  /-- The memory of the mappers. -/
  memory : σ

/-- Why an attempt failed. -/
inductive AttemptError where
  | file (error : FileError)
  | map (error : MapError)
deriving DecidableEq, Repr

/-- The wording of a failure. -/
def AttemptError.message : AttemptError → String
  | .file error => "IO error: " ++ error.message
  | .map error => error.message

/-! ## The members of a source -/

/-- The members of a mapping with their region markers and identities, in the order
of lines. -/
def Mapping.identified (mapping : Mapping) (markers : MarkerStyle) (source : String)
    (tokens : Nat → String) : Forest :=
  let forest := mapping.members.sortByLine
  let forest := match mapping.codeStartLine with
    | some line => forest.resolveRegions markers source line mapping.spans
    | none => forest
  forest.assignIds tokens

/-- The members with their colors. -/
def Forest.joinColors (forest : Forest) (bookmarks : Bookmarks) : Option String → Forest
  | some key => forest.mapEntries fun entry =>
      { entry with colorTag := bookmarks.color? key entry.id }
  | none => forest

namespace Generator

variable {σ : Type}

/-! ## One attempt -/

/-- Calls the mapper of a language on a text. -/
def callMapper (generator : Generator σ) (language : Language) (text : String)
    (options : MapOptions) (memory : σ) : Except AttemptError (Mapper σ × Mapping) × σ :=
  match generator.factory language memory with
  | (.error error, memory) => (.error (.map error), memory)
  | (.ok mapper, memory) =>
    match mapper.map text options memory with
    | (.error error, memory) => (.error (.map error), memory)
    | (.ok mapping, memory) => (.ok (mapper, mapping), memory)

/-- What a mapper is told about a source. -/
def mapOptions (source : Source) (options : Options) : MapOptions :=
  let base : MapOptions := { showSignatures := options.showSignatures }
  match source.componentName? with
  | some name => { base with componentName := name }
  | none => base

/-- Drops the bookmarks of a source that belong to no member. A failure to save is
passed over. -/
def purge (source : Source) (ids : List String) (world : World σ) : World σ :=
  match source.fileKey? with
  | some key =>
    let (_, store, disk) := world.store.purge world.disk key ids
    { world with store := store, disk := disk }
  | none => world

/-- Makes the outline of a source once. -/
def attempt (generator : Generator σ) (source : Source) (language : Language)
    (options : Options) (world : World σ) : Except AttemptError Outline × World σ :=
  match source.read world.disk with
  | .error error => (.error (.file error), world)
  | .ok text =>
    match generator.callMapper language text (mapOptions source options) world.memory with
    | (.error error, memory) => (.error error, { world with memory := memory })
    | (.ok (mapper, mapping), memory) =>
      let world := { world with memory := memory }
      let forest := mapping.identified mapper.markers text generator.tokens
      let forest := forest.joinColors world.store.bookmarks source.fileKey?
      let outline : Outline := {
        path := source.path?
        language := language
        totalLines := (Text.lines text).length
        items := forest.nest.emit options mapper.encodesContainment
        errors := mapping.errors
        attempts := 1
        metadata := generator.stamp }
      (.ok outline, purge source forest.ids world)

/-! ## Repeated attempts -/

/-- Tries up to `left` more times, after `made` attempts of which the last one
failed with a message. -/
def retry (generator : Generator σ) (source : Source) (language : Language) (options : Options)
    (message : String) (made : Nat) : Nat → World σ → Outcome × World σ
  | 0, world => (.failed message made, world)
  | left + 1, world =>
    match generator.attempt source language options world with
    | (.ok outline, world) => (.ready { outline with attempts := made + 1 }, world)
    | (.error error, world) =>
      generator.retry source language options error.message (made + 1) left world

/-- Makes the outline of a source. -/
def generate (generator : Generator σ) (source : Source) (options : Options) (world : World σ) :
    Outcome × World σ :=
  match generator.registry.resolve source.extension with
  | none => (.unsupported source.extension, world)
  | some language =>
    generator.retry source language options "" 0 (max generator.maxAttempts 1) world

end Generator

end SourceOutline
