/-
A place in a text where a token is looked for. What is passed over on the way to the
token does not belong to it, and the token may end before the place that has been
looked at.
-/
import SourceOutline.Lexing.Dfa
import SourceOutline.Parsing.Extent

set_option autoImplicit false

namespace SourceOutline.Parsing

/-- A place in a text, with the beginning of the token that is looked for and its end, as
far as that is known. -/
structure Cursor where
  text : String
  place : Extent
  start : Extent
  stop : Option Extent := none

namespace Cursor

/-- Whether the text ends here. -/
def atEnd (c : Cursor) : Bool := c.text.utf8ByteSize ≤ c.place.bytes

/-- The next character, or the null character at the end. -/
def peek (c : Cursor) : Char :=
  if c.atEnd then '\x00' else String.Pos.Raw.get c.text ⟨c.place.bytes⟩

/-- One character further. -/
def advance (c : Cursor) : Cursor :=
  if c.atEnd then c else { c with place := c.place.after c.peek }

/-- One character further; the token begins behind it. -/
def skip (c : Cursor) : Cursor :=
  if c.atEnd then c
  else
    let place := c.place.after c.peek
    { c with place, start := place }

/-- The token ends here, unless it goes on. -/
def mark (c : Cursor) : Cursor := { c with stop := some c.place }

/-- Where the token ends. -/
def finish (c : Cursor) : Extent := c.stop.getD c.place

/-- A cursor at a place. A byte order mark at the beginning of the text is passed over. -/
def begin (text : String) (place : Extent) : Cursor :=
  let c : Cursor := { text, place, start := place }
  if place.bytes = 0 && c.peek = '\ufeff' then c.skip else c

/-- Passes over characters while they have a property. The fuel bounds their number. -/
def skipWhile (p : Char → Bool) : Nat → Cursor → Cursor
  | 0, c => c
  | fuel + 1, c => if !c.atEnd && p c.peek then skipWhile p fuel c.skip else c

/-- The number of bytes from here to the end. -/
def remaining (c : Cursor) : Nat := c.text.utf8ByteSize - c.place.bytes

/-- Passes over blanks. -/
def skipBlanks (isBlank : Char → Bool) (c : Cursor) : Cursor :=
  skipWhile isBlank c.remaining c

/-- Reads the same character while it comes, up to a number of times, and goes on counting
from a number. -/
def countFrom (char : Char) : Nat → Nat → Cursor → Nat × Cursor
  | 0, count, c => (count, c)
  | limit + 1, count, c =>
    if !c.atEnd && c.peek = char then countFrom char limit (count + 1) c.advance
    else (count, c)

/-- How often the same character comes, up to a number of times. -/
def countUpTo (char : Char) (limit : Nat) (c : Cursor) : Nat × Cursor :=
  countFrom char limit 0 c

/-- How often the same character comes. -/
def count (char : Char) (c : Cursor) : Nat × Cursor := c.countUpTo char c.remaining

/-! ## Tokens with a pattern -/

/-- What a search came to. -/
inductive Outcome where
  | nothing
  /-- The text ends here. -/
  | textEnd
  /-- A token, counted from zero. -/
  | token (index : Nat)
deriving DecidableEq

/-- Looks for the longest token, from a state of the automaton on. No token goes on over a
null character, which is what a cursor shows at the end of the text. The fuel bounds the
number of characters. -/
def searchFrom (dfa : Lexing.Dfa) (alphabet : Lexing.Alphabet) :
    Nat → Nat → Outcome → Cursor → Outcome × Cursor
  | 0, _, found, c => (found, c)
  | fuel + 1, number, found, c =>
    match dfa.states[number]? with
    | none => (found, c)
    | some state =>
      let (found, c) : Outcome × Cursor := match state.complete with
        | some token => (.token token, c.mark)
        | none => (found, c)
      if c.atEnd then if state.mayEnd then (.textEnd, c.mark) else (found, c)
      else if c.peek = '\x00' then (found, c)
      else
        match (state.moves[alphabet.classOf c.peek]?).join with
        | some move =>
          searchFrom dfa alphabet fuel move.target found
            (if move.separator then c.skip else c.advance)
        | none => (found, c)

/-- Looks for the longest token. -/
def search (dfa : Lexing.Dfa) (alphabet : Lexing.Alphabet) (start : Nat) (c : Cursor) :
    Outcome × Cursor :=
  searchFrom dfa alphabet (c.remaining + 1) start .nothing c

end Cursor

/-- Finds tokens that have no pattern. It keeps a state from one such token to the
next. -/
structure Scanner (σ : Type) where
  /-- The state at the beginning of a text. -/
  initial : σ
  /-- Looks for one of a set of tokens. -/
  scan : Nat → σ → Cursor → Option (Nat × σ × Cursor)

end SourceOutline.Parsing
