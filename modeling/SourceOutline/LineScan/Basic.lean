/-
Declarations found line by line. Some languages are read without a grammar: each
line is classified on its own, and indentation stands for nesting. A line opens a
block that reaches over the following lines that are indented more, and a block
that has a name qualifies what is declared directly in it.

A qualified name is the list of its segments. The scan gives back the
declarations in the order of their lines, each with its qualified name, and the
blocks in the order in which they were closed.
-/
import SourceOutline.Member.Basic

set_option autoImplicit false

namespace SourceOutline.LineScan

/-! ## Lines -/

/-- What a line declares. -/
structure Declaration where
  kind : Kind
  name : String
  signature : Option Signature := none
deriving DecidableEq, Repr

/-- What a line that is not blank amounts to. -/
inductive LineKind where
  /-- A declaration. That of a container gives its name to the block. -/
  | declaration (declaration : Declaration)
  /-- A line that gives a name to its block and declares nothing. -/
  | scope (name : String)
  /-- Any other line of code. Its block has no name. -/
  | plain
  /-- A line that opens no block. -/
  | skip
deriving DecidableEq, Repr

/-- A way to classify lines, with a memory of the lines before. -/
structure Classifier (σ : Type) where
  initial : σ
  step : σ → List Char → LineKind × σ

/-! ## Blocks -/

/-- A name with its qualifiers, outermost first. -/
abbrev QualifiedName := List String

/-- The segments of a dotted name. -/
def segmentsOf (name : String) : QualifiedName :=
  (Text.splitAt (· == '.') name.toList).map String.ofList

/-- A declaration with its place. -/
structure Found where
  name : QualifiedName
  declaration : Declaration
  line : Nat
  column : Nat
deriving Repr

/-- A block that is still open. -/
structure OpenBlock where
  indent : Nat
  first : Nat
  scope : Option QualifiedName

/-- A block from its first line to its last. -/
structure Block where
  first : Nat
  last : Nat
  scope : Option QualifiedName
deriving Repr

/-- Closes a block. It reaches at least over its own line. -/
def OpenBlock.close (last : Nat) (block : OpenBlock) : Block :=
  { first := block.first, last := max last block.first, scope := block.scope }

/-! ## The scan -/

/-- What is known after some lines. -/
structure State (σ : Type) where
  memory : σ
  /-- The open blocks, innermost first. -/
  opened : List OpenBlock := []
  /-- The closed blocks, the last one first. -/
  closed : List Block := []
  /-- The declarations, the last one first. -/
  found : List Found := []
  /-- The last line that was not blank. -/
  lastLine : Nat := 0

variable {σ : Type}

/-- Closes the blocks that a line of the given indentation ends. -/
def State.closeFrom (indent : Nat) (state : State σ) : State σ :=
  let ended := state.opened.takeWhile fun block => indent ≤ block.indent
  { state with
    opened := state.opened.dropWhile fun block => indent ≤ block.indent
    closed := (ended.map (OpenBlock.close state.lastLine)).reverse ++ state.closed }

/-- Closes every block. -/
def State.closeAll (state : State σ) : State σ := state.closeFrom 0

/-- The name of the innermost block, if it has one. -/
def State.scope (state : State σ) : QualifiedName :=
  ((state.opened.head? >>= OpenBlock.scope).getD [])

/-- Reads one line. -/
def State.read (classifier : Classifier σ) (state : State σ) (number : Nat) (line : List Char) :
    State σ :=
  if Text.isBlankLine line then state
  else
    let indent := Text.indent line
    let state := state.closeFrom indent
    let (kind, memory) := classifier.step state.memory line
    let state := { state with memory := memory, lastLine := number }
    let opening := fun scope => ({ indent := indent, first := number, scope := scope } : OpenBlock)
    match kind with
    | .skip => state
    | .plain => { state with opened := opening none :: state.opened }
    | .scope name =>
      { state with opened := opening (some (state.scope ++ segmentsOf name)) :: state.opened }
    | .declaration declaration =>
      let name := state.scope ++ segmentsOf declaration.name
      let scope := if declaration.kind.isContainer then some name else none
      { state with
        opened := opening scope :: state.opened
        found := { name := name, declaration := declaration, line := number, column := indent }
          :: state.found }

/-- Reads lines one after the other. -/
def State.readAll (classifier : Classifier σ) (state : State σ) :
    List (Nat × List Char) → State σ
  | [] => state
  | (number, line) :: rest => (state.read classifier number line).readAll classifier rest

/-- The declarations of a text in the order of their lines, and its blocks in the
order in which they end. -/
def scan (classifier : Classifier σ) (source : String) : List Found × List Block :=
  let state := State.readAll classifier { memory := classifier.initial }
    (Text.numbered 0 (Text.lines source))
  let state := state.closeAll
  (state.found.reverse, state.closed.reverse)

end SourceOutline.LineScan
