/-
Patterns over characters, matched with priorities. Of several ways to match, the
first in the order of the pattern counts: the left branch of a choice before the
right one, and one more round of a repetition before its end. A match may start
anywhere in the text, and the leftmost start wins.

The matcher hands every candidate to a continuation and takes the first one the
continuation accepts. This is the whole of backtracking, and it makes each
constructor's case one line. A stretch of characters of one class has a case of its
own, because such a stretch may be as long as the line.
-/
import SourceOutline.Text.Basic
import SourceOutline.Text.WordTable

set_option autoImplicit false

namespace SourceOutline.Text

/-- A pattern. -/
inductive Pattern where
  /-- One character of a class. -/
  | one (accepts : Char → Bool)
  /-- Any number of characters of a class, as many as possible. -/
  | span (accepts : Char → Bool)
  /-- Nothing. -/
  | empty
  | seq (first second : Pattern)
  /-- The first pattern, or else the second. -/
  | either (first second : Pattern)
  /-- The pattern any number of times, as often as possible. -/
  | many (body : Pattern)
  /-- The pattern, with its text kept under a number. -/
  | capture (group : Nat) (body : Pattern)
  /-- A place between a word character and another character or an end. -/
  | wordEdge
  /-- The start of the text. -/
  | textStart
  /-- The end of the text. -/
  | textEnd

/-- A stretch of text that is kept: what follows its beginning, and what follows its
end. -/
structure Capture where
  first : List Char
  last : List Char

/-- The text of a stretch. -/
def Capture.text (capture : Capture) : List Char :=
  capture.first.take (capture.first.length - capture.last.length)

/-- A place in a text, and the captures made on the way to it. -/
structure Cursor where
  before : Option Char
  rest : List Char
  groups : List (Nat × Capture) := []

namespace Cursor

/-- The start of a text. -/
def start (text : List Char) : Cursor := { before := none, rest := text }

/-- Whether a word character stands on exactly one side. -/
def atWordEdge (cursor : Cursor) : Bool :=
  let isWord? := fun c : Option Char => (c.map isWord).getD false
  isWord? cursor.before != isWord? cursor.rest.head?

/-- The places up to which characters of a class may be read, the furthest first. -/
def reach (accepts : Char → Bool) (groups : List (Nat × Capture)) :
    Option Char → List Char → List Cursor → List Cursor
  | before, [], nearer => ⟨before, [], groups⟩ :: nearer
  | before, c :: rest, nearer =>
    let here : Cursor := ⟨before, c :: rest, groups⟩
    if accepts c then reach accepts groups (some c) rest (here :: nearer) else here :: nearer

/-- The text kept under a number, the latest one if there are several. -/
def group? (cursor : Cursor) (group : Nat) : Option (List Char) :=
  (cursor.groups.lookup group).map Capture.text

end Cursor

namespace Pattern

/-- A way to go on from a place: to the end of a match, or nowhere. -/
abbrev Next := Cursor → Option Cursor

/-- Repeats a step that moves forward at most `rounds` times, as often as possible. -/
def repeated (step : Cursor → Next → Option Cursor) : Nat → Cursor → Next → Option Cursor
  | 0, cursor, next => next cursor
  | rounds + 1, cursor, next =>
    let again := step cursor fun later =>
      if later.rest.length < cursor.rest.length then repeated step rounds later next else none
    match again with
    | some found => some found
    | none => next cursor

/-- Matches a pattern at a place and goes on. -/
def run : Pattern → Cursor → Next → Option Cursor
  | one accepts, cursor, next =>
    match cursor.rest with
    | c :: rest =>
      if accepts c then next { cursor with before := some c, rest := rest } else none
    | [] => none
  | span accepts, cursor, next =>
    (Cursor.reach accepts cursor.groups cursor.before cursor.rest []).findSome? next
  | empty, cursor, next => next cursor
  | seq first second, cursor, next => run first cursor fun later => run second later next
  | either first second, cursor, next =>
    match run first cursor next with
    | some found => some found
    | none => run second cursor next
  | many body, cursor, next => repeated (run body) cursor.rest.length cursor next
  | capture group body, cursor, next =>
    run body cursor fun later =>
      next { later with groups := (group, ⟨cursor.rest, later.rest⟩) :: later.groups }
  | wordEdge, cursor, next => if cursor.atWordEdge then next cursor else none
  | textStart, cursor, next => if cursor.before.isNone then next cursor else none
  | textEnd, cursor, next => if cursor.rest.isEmpty then next cursor else none

/-- The leftmost match that starts at a place or after it. -/
def searchFrom (pattern : Pattern) (before : Option Char) : List Char → Option Cursor
  | [] => pattern.run { before := before, rest := [] } some
  | c :: rest =>
    match pattern.run { before := before, rest := c :: rest } some with
    | some found => some found
    | none => searchFrom pattern (some c) rest

/-- The leftmost match in a text. -/
def search (pattern : Pattern) (text : List Char) : Option Cursor :=
  searchFrom pattern none text

/-! ## Shorthands -/

/-- Patterns one after the other. -/
def sequence : List Pattern → Pattern
  | [] => empty
  | [pattern] => pattern
  | pattern :: rest => seq pattern (sequence rest)

/-- The first of several patterns that leads to a match. -/
def choice : List Pattern → Pattern
  | [] => one fun _ => false
  | [pattern] => pattern
  | pattern :: rest => either pattern (choice rest)

/-- Characters of a class, one at least and as many as possible. -/
def span1 (accepts : Char → Bool) : Pattern := seq (one accepts) (span accepts)

/-- The pattern once if possible. -/
def opt (body : Pattern) : Pattern := either body empty

/-- A given character. -/
def char (c : Char) : Pattern := one (· == c)

/-- A given text. -/
def text (s : String) : Pattern := sequence (s.toList.map char)

/-- One of several given texts. -/
def oneOf (texts : List String) : Pattern := choice (texts.map text)

/-- Whether a character is none of the given ones. -/
def noneOf (chars : List Char) (c : Char) : Bool := !chars.contains c

/-- Any number of blanks. -/
def blanks : Pattern := span isBlank

/-- At least one blank. -/
def blanks1 : Pattern := span1 isBlank

end Pattern

end SourceOutline.Text
