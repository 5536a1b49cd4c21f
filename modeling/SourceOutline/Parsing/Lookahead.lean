/-
The next token of a text. Which tokens are looked for depends on the state of the
parser. If none of them comes, all tokens are looked for, and characters are passed
over until one does.
-/
import SourceOutline.Parsing.Cursor
import SourceOutline.Parsing.Stack

set_option autoImplicit false

namespace SourceOutline.Parsing

open Automaton (Table)

/-- What it takes to read a language: the table of its parser, and the scanner for tokens
without a pattern. -/
structure Machine (σ : Type) where
  table : Table
  scanner : Scanner σ

variable {σ : Type} [DecidableEq σ]

/-- A token that was found: its symbol, the cursor behind it, and for one that the scanner
found the state of the scanner, and whether that is a new one. -/
structure Hit (σ : Type) where
  symbol : Nat
  cursor : Cursor
  scanned : Option (σ × Bool) := none

/-- Where a token is looked for: the state of the parser, that of the scanner, and
whether any text was read since the last fault. -/
structure Outlook (σ : Type) where
  state : Nat
  place : Extent
  scanned : Option σ
  hasAdvanced : Bool

namespace Machine

variable (m : Machine σ)

/-- Looks for a token that has no pattern. One without text has to change something:
the state of the scanner, or that of the parser if it has come forward. -/
def scan (outlook : Outlook σ) (isLost : Bool) (text : String) (place : Extent) :
    Option (Hit σ) := do
  let valid := m.table.scannedTokens (if isLost then 0 else outlook.state)
  if valid = 0 then none
  else
    let (token, state, cursor) ←
      m.scanner.scan valid (outlook.scanned.getD m.scanner.initial) (Cursor.begin text place)
    let moved := outlook.scanned.getD m.scanner.initial ≠ state
    if cursor.finish.bytes ≤ place.bytes && !moved
        && (isLost || !outlook.hasAdvanced || m.table.next outlook.state token = outlook.state) then
      none
    else some { symbol := token, cursor, scanned := some (state, moved) }

/-- Looks for a token with a pattern. -/
def search (mode : Nat) (text : String) (place : Extent) : Option Nat × Cursor :=
  let g := m.table.grammar
  match (Cursor.begin text place).search m.table.dfa m.table.alphabet mode with
  | (.token index, cursor) => (some (g.firstToken + index), cursor)
  | (.textEnd, cursor) => (some g.textEnd, cursor)
  | (.nothing, cursor) => (none, cursor)

/-- The mode in which tokens are looked for in a state. -/
def modeOf (state : Nat) : Nat :=
  m.table.modes.getD ((m.table.state state).mode.getD 0) 0

/-- A token, or the stretch that was passed over because nothing fits. -/
inductive Sighting (σ : Type) where
  | hit (hit : Hit σ)
  | fault (start stop : Extent)

/-- Passes over characters until a token comes. The stretch begins where something was
looked for in vain at first. The fuel bounds the number of characters. -/
def passOver (outlook : Outlook σ) (text : String) :
    Nat → Extent → Extent → Extent → Sighting σ
  | 0, start, stop, _ => .fault start stop
  | fuel + 1, start, stop, place =>
    if (m.scan outlook true text place).isSome then .fault start stop
    else
      match m.search (m.modeOf 0) text place with
      | (some _, _) => .fault start stop
      | (none, cursor) =>
        if cursor.place.bytes ≠ stop.bytes then
          passOver outlook text fuel start cursor.place cursor.place
        else if cursor.atEnd then .fault start stop
        else
          let next := cursor.advance.place
          passOver outlook text fuel start next next

/-- Looks for all tokens. -/
def sightLost (outlook : Outlook σ) (text : String) : Sighting σ :=
  match m.scan outlook true text outlook.place with
  | some hit => .hit hit
  | none =>
    match m.search (m.modeOf 0) text outlook.place with
    | (some symbol, cursor) => .hit { symbol, cursor }
    | (none, cursor) =>
      let start := cursor.start
      if cursor.place.bytes ≠ start.bytes then
        m.passOver outlook text (cursor.remaining + 1) start cursor.place cursor.place
      else if cursor.atEnd then .fault start start
      else
        let next := cursor.advance.place
        m.passOver outlook text (cursor.remaining + 1) start next next

/-- Looks for the tokens of the state, and then for all tokens. -/
def sight (outlook : Outlook σ) (text : String) : Sighting σ :=
  if outlook.state = 0 then m.sightLost outlook text
  else
    match m.scan outlook false text outlook.place with
    | some hit => .hit hit
    | none =>
      match m.search (m.modeOf outlook.state) text outlook.place with
      | (some symbol, cursor) => .hit { symbol, cursor }
      | (none, _) => m.sightLost outlook text

/-- Tells a keyword from other words. The answer is the symbol, and whether the word begins
like a keyword. -/
def tellKeyword (state : Nat) (text : String) (hit : Hit σ) : Nat × Bool :=
  if hit.symbol = m.table.grammar.word then
    match m.search m.table.keywordMode text hit.cursor.start with
    | (some symbol, cursor) =>
      let isWhole := cursor.finish.bytes = hit.cursor.finish.bytes
        && !(m.table.actions state symbol).isEmpty
      (if isWhole then symbol else hit.symbol, true)
    | (none, _) => (hit.symbol, false)
  else (hit.symbol, false)

/-- The next token. -/
def token (outlook : Outlook σ) (text : String) : Tree σ :=
  match m.sight outlook text with
  | .fault start stop =>
    .leaf
      { label := .fault
        padding := outlook.place.between start
        size := start.between stop
        readIn := outlook.state }
  | .hit hit =>
    let (symbol, isKeyword) :=
      if hit.scanned.isSome then (hit.symbol, false)
      else m.tellKeyword outlook.state text hit
    .leaf
      { label := .symbol symbol
        padding := outlook.place.between hit.cursor.start
        size := hit.cursor.start.between hit.cursor.finish
        isExtra := symbol = m.table.grammar.textEnd
        isKeyword
        scanned := hit.scanned.map Prod.fst
        movesScanner := hit.scanned.any Prod.snd
        readIn := outlook.state }

/-- The next token of a version in a state. At the end of a construct between tokens there
is none. -/
def token? (text : String) (s : Stack σ) (v state : Nat) : Option (Tree σ) :=
  if (m.table.state state).mode.isNone then none
  else
    let version := s.version v
    some (m.token
      { state, place := (s.top v).place, scanned := version.scanned
        hasAdvanced := s.hasAdvanced v } text)

end Machine

end SourceOutline.Parsing
