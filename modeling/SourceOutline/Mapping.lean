/-
From a source text to its members. A mapper does this for one language. What it
gives back is shallow: containers with their direct members, side by side, and a
nested container is an entry of its own whose ancestry tells where it belongs.

A mapper may carry a memory from one call to the next. Those of this library do
not, but a caller may supply one that does, for instance a source that cannot be
read the first few times.
-/
import SourceOutline.Outline.Basic
import SourceOutline.Region.Marker

set_option autoImplicit false

namespace SourceOutline

/-- What a mapper is told besides the text. -/
structure MapOptions where
  /-- Whether titles spell out parameter lists. -/
  showSignatures : Bool := true
  /-- The name of the class that a code section stands for. -/
  componentName : String := "Component"
deriving DecidableEq, Repr

/-- What a mapper finds in a text. -/
structure Mapping where
  members : Forest := []
  errors : List Diagnostic := []
  /-- The first line that was read, unless there is no code at all. -/
  codeStartLine : Option Nat := none
  spans : List NamespaceSpan := []

/-- A mapping of a whole text without faults. -/
def Mapping.wholeFile (members : Forest) : Mapping :=
  { members := members, codeStartLine := some 0 }

/-- Why there is no mapping. -/
inductive MapError where
  | setup (detail : String)
  | parse (detail : String)
  | unsupported (language : String)
deriving DecidableEq, Repr

/-- The wording of an error. -/
def MapError.message : MapError → String
  | .setup detail => "Failed to initialize parser: " ++ detail
  | .parse detail => "Failed to parse source code: " ++ detail
  | .unsupported language => "No mapper for language: " ++ language

/-- A mapper whose calls share a memory of type `σ`. -/
structure Mapper (σ : Type) where
  /-- How region markers are written. -/
  markers : MarkerStyle
  /-- Whether the members stand in real containers, so that filters by container
  make sense. -/
  encodesContainment : Bool
  map : String → MapOptions → σ → Except MapError Mapping × σ

/-- A mapper that cannot fail and remembers nothing. -/
def Mapper.ofFunction {σ : Type} (markers : MarkerStyle) (encodesContainment : Bool)
    (f : String → MapOptions → Mapping) : Mapper σ where
  markers := markers
  encodesContainment := encodesContainment
  map := fun source options memory => (.ok (f source options), memory)

/-- Supplies a mapper for a language, or says why there is none. -/
abbrev MapperFactory (σ : Type) := Language → σ → Except MapError (Mapper σ) × σ

end SourceOutline
