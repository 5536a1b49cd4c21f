/-
The tokens of C# that no pattern describes: the parts of raw strings and of strings with
interpolations, and the semicolon that may be left out.

How such a string ends depends on how it began, so the scanner remembers the strings
that it is in: how many quotes and how many dollar signs each began with, and how many
braces opened the interpolation that is being read.
-/
import SourceOutline.Parsing.Cursor

set_option autoImplicit false

namespace SourceOutline.CSharp

open Parsing (Cursor Scanner)

/-! ## What the scanner remembers -/

/-- The ways to write a string with interpolations. -/
inductive StringStyle where
  | regular
  | verbatim
  | raw
deriving DecidableEq

/-- A string with interpolations that has begun. What is counted is kept in a byte. -/
structure OpenString where
  style : StringStyle
  dollars : UInt8
  quotes : UInt8 := 0
  /-- The braces that opened the interpolation. -/
  braces : UInt8 := 0
deriving DecidableEq

/-- The strings that have begun and not ended, the innermost first, and the quotes of a
raw string without interpolations. -/
structure StringMemory where
  rawQuotes : UInt8 := 0
  strings : List OpenString := []
deriving DecidableEq

/-- How many strings can be remembered. -/
def StringMemory.capacity : Nat := 255

/-- What is remembered until the next token: all of it, or nothing at all if it is too
much. -/
def StringMemory.kept (memory : StringMemory) : Option StringMemory :=
  if memory.strings.length ≤ capacity then some memory else none

/-! ## Names of the tokens -/

namespace Scanned

def optionalSemicolon : Nat := 0
def regularStart : Nat := 1
def verbatimStart : Nat := 2
def rawStart : Nat := 3
def startQuote : Nat := 4
def endQuote : Nat := 5
def openBrace : Nat := 6
def closeBrace : Nat := 7
def stringContent : Nat := 8
def rawStringStart : Nat := 9
def rawStringEnd : Nat := 10
def rawStringContent : Nat := 11

end Scanned

/-- Characters that may stand in front of a string: the blanks of ASCII. -/
def isScannerBlank (c : Char) : Bool :=
  c = ' ' || ('\t' ≤ c && c ≤ '\r')

/-! ## Attempts -/

/-- How far an attempt to find a token has come. What one attempt has read is not given
back to the next. -/
structure Attempt where
  memory : StringMemory
  cursor : Cursor
  quotes : UInt8 := 0
  braces : UInt8 := 0
  hasRead : Bool := false

/-- The outcome of an attempt. -/
inductive Attempted where
  | found (token : Nat) (memory : StringMemory) (cursor : Cursor)
  | failed
  /-- Try the next one. -/
  | goOn (attempt : Attempt)

/-- The outcome for a token if there is one. -/
def Attempt.settle (attempt : Attempt) (token : Nat) (isThere : Bool) : Attempted :=
  if isThere then .found token attempt.memory attempt.cursor else .failed

namespace Attempt

/-- Reads quotes. -/
def readQuotes (a : Attempt) : Attempt :=
  let (count, cursor) := a.cursor.count '"'
  { a with cursor, quotes := a.quotes + .ofNat count }

/-- Reads opening braces, as long as there are fewer than a number. -/
def readBraces (a : Attempt) (limit : UInt8) : Attempt :=
  let (count, cursor) := a.cursor.countUpTo '\x7b' (limit.toNat - a.braces.toNat)
  { a with cursor, braces := a.braces + .ofNat count }

/-- One character further. -/
def advance (a : Attempt) : Attempt := { a with cursor := a.cursor.advance }

/-- Marks the end of the token. -/
def mark (a : Attempt) : Attempt := { a with cursor := a.cursor.mark }

/-- The next character. -/
def peek (a : Attempt) : Char := a.cursor.peek

/-! ## Raw strings -/

/-- The quotes at the beginning of a raw string: three at least. -/
def rawStringStart (a : Attempt) : Attempted :=
  let a := { a with cursor := a.cursor.skipBlanks isScannerBlank }
  let a := a.readQuotes
  if 3 ≤ a.quotes then
    .found Scanned.rawStringStart { a.memory with rawQuotes := a.quotes } a.cursor
  else .goOn a

/-- The quotes at the end of a raw string: as many as at the beginning. -/
def rawStringEnd (a : Attempt) : Attempted :=
  if a.peek = '"' then
    let a := a.readQuotes
    if a.quotes = a.memory.rawQuotes then
      .found Scanned.rawStringEnd { a.memory with rawQuotes := 0 } a.cursor
    else .goOn { a with hasRead := 0 < a.quotes }
  else .goOn a

/-- What stands in a raw string: everything up to as many quotes as at the beginning. The
fuel bounds the number of characters. -/
def rawStringContent : Nat → Attempt → Attempted
  | 0, a => .found Scanned.rawStringContent a.memory a.cursor.mark
  | fuel + 1, a =>
    if a.peek = '\x00' then .found Scanned.rawStringContent a.memory a.cursor.mark
    else if a.peek = '"' then
      let a := { a.mark with quotes := 0 }.readQuotes
      if a.quotes = a.memory.rawQuotes then
        .found Scanned.rawStringContent a.memory a.cursor
      else rawStringContent fuel a.advance
    else rawStringContent fuel a.advance

/-! ## Strings with interpolations -/

/-- The dollar signs of a string with interpolations, with the sign for a verbatim one
before or behind them. An empty string of the regular kind is not remembered. -/
def interpolatedStart (a : Attempt) : Attempted :=
  let a := { a with cursor := a.cursor.skipBlanks isScannerBlank }
  let isVerbatim := a.peek = '@'
  let a := if isVerbatim then a.advance else a
  let (count, cursor) := if a.quotes = 0 then a.cursor.count '$' else (0, a.cursor)
  let dollars : UInt8 := .ofNat count
  let a := { a with cursor }
  if 0 < dollars && (a.peek = '"' || a.peek = '@') then
    let comesVerbatim := a.peek = '@'
    let isVerbatim := isVerbatim || comesVerbatim
    let a := (if comesVerbatim then a.advance else a).mark.advance
    let remember (style : StringStyle) : StringMemory :=
      { a.memory with strings := ⟨style, dollars, 0, 0⟩ :: a.memory.strings }
    if isVerbatim then .found Scanned.verbatimStart (remember .verbatim) a.cursor
    else if a.peek = '"' then
      let a := a.advance
      if a.peek = '"' then .found Scanned.rawStart (remember .raw) a.cursor
      else .found Scanned.regularStart a.memory a.cursor
    else .found Scanned.regularStart (remember .regular) a.cursor
  else .goOn a

/-- The quotes behind the dollar signs. -/
def startQuote (current : OpenString) (outer : List OpenString) (a : Attempt) : Attempted :=
  let (count, cursor) := if current.style = .raw then a.cursor.count '"'
    else a.cursor.countUpTo '"' 1
  let current := { current with quotes := current.quotes + .ofNat count }
  { a with cursor, memory := { a.memory with strings := current :: outer } }.settle
    Scanned.startQuote (0 < current.quotes)

/-- The quotes at the end: as many as at the beginning. -/
def endQuote (current : OpenString) (outer : List OpenString) (a : Attempt) : Attempted :=
  let a := a.readQuotes
  if a.quotes = current.quotes then
    .found Scanned.endQuote { a.memory with strings := outer } a.cursor
  else .goOn { a with hasRead := 0 < a.quotes }

/-- The braces that open an interpolation: as many as there are dollar signs. -/
def openBrace (current : OpenString) (outer : List OpenString) (a : Attempt) : Attempted :=
  let a := a.readBraces current.dollars
  if 0 < a.braces && a.braces = current.dollars && a.peek ≠ '\x7b' then
    .found Scanned.openBrace
      { a.memory with strings := { current with braces := a.braces } :: outer } a.cursor
  else .goOn a

/-- The braces that close an interpolation: as many as opened it. -/
def closeBrace (current : OpenString) (outer : List OpenString) (a : Attempt) : Attempted :=
  let blanks (c : Cursor) : Cursor :=
    { c.skipBlanks isScannerBlank with start := c.start }
  let (count, cursor) := (blanks a.cursor).countUpTo '\x7d' current.braces.toNat
  if 0 < count && count = current.braces.toNat then
    .found Scanned.closeBrace
      { a.memory with strings := { current with braces := 0 } :: outer } cursor
  else .failed

/-- Whether an opening brace ends the text before it. `limit` is the number of braces that
do. -/
def endsAtBrace (a : Attempt) (limit : UInt8) : Bool :=
  a.braces = limit && (a.braces = 0 || a.peek ≠ '\x7b')

/-- The text between interpolations. The fuel bounds the number of characters. -/
def stringContent (current : OpenString) : Nat → Attempt → Attempted
  | 0, a => a.mark.settle Scanned.stringContent a.hasRead
  | fuel + 1, a =>
    let next (a : Attempt) : Attempted :=
      let a := if a.peek = '\x7b' then a else { a with braces := 0 }
      stringContent current fuel { a.advance with hasRead := true }
    let orBrace (limit : UInt8) (a : Attempt) : Attempted :=
      if a.peek = '\x7b' then
        let a := a.mark.readBraces limit
        if a.endsAtBrace limit then a.settle Scanned.stringContent a.hasRead else next a
      else next a
    if a.peek = '\x00' then a.mark.settle Scanned.stringContent a.hasRead
    else
      match current.style with
      | .raw =>
        if a.peek = '"' then
          let (count, cursor) := a.mark.cursor.count '"'
          let a := { a with cursor }
          if 2 ≤ count && .ofNat count = current.quotes then
            a.settle Scanned.stringContent a.hasRead
          else orBrace current.dollars a
        else orBrace current.dollars a
      | .verbatim =>
        if a.peek = '"' then
          let a := a.mark.advance
          if a.peek = '"' then stringContent current fuel a.advance
          else a.settle Scanned.stringContent a.hasRead
        else orBrace current.braces a
      | .regular =>
        if a.peek = '\\' || a.peek = '\n' || a.peek = '"' then
          a.mark.settle Scanned.stringContent a.hasRead
        else orBrace current.braces a

end Attempt

/-- Tries a token if it may stand here and nothing was found before. -/
def Attempted.orElse (attempted : Attempted) (isValid : Bool) (next : Attempt → Attempted) :
    Attempted :=
  match attempted with
  | .goOn attempt => if isValid then next attempt else .goOn attempt
  | _ => attempted

/-- Tries a token that belongs to the innermost string. -/
def inString (next : OpenString → List OpenString → Attempt → Attempted) (a : Attempt) :
    Attempted :=
  match a.memory.strings with
  | current :: outer => next current outer a
  | [] => .goOn a

/-- The semicolon that may be left out. -/
def scanSemicolon (memory : StringMemory) (cursor : Cursor) :
    Nat × Option StringMemory × Cursor :=
  (Scanned.optionalSemicolon, memory.kept, if cursor.peek = ';' then cursor.advance else cursor)

/-- Looks for one of some tokens. Where all of them may stand, nothing can be said. -/
def scanStrings (valid : Nat) (remembered : Option StringMemory) (cursor : Cursor) :
    Option (Nat × Option StringMemory × Cursor) :=
  let memory := remembered.getD {}
  let may (token : Nat) : Bool := valid.testBit token
  if may Scanned.optionalSemicolon then
    if may Scanned.regularStart then none else some (scanSemicolon memory cursor)
  else
    let start : Attempted := .goOn { memory, cursor }
    let interpolated :=
      may Scanned.regularStart || may Scanned.verbatimStart || may Scanned.rawStart
    let attempted := start
      |>.orElse (may Scanned.rawStringStart) Attempt.rawStringStart
      |>.orElse (may Scanned.rawStringEnd) Attempt.rawStringEnd
      |>.orElse (may Scanned.rawStringContent)
        (fun a => Attempt.rawStringContent (a.cursor.remaining + 1) a)
      |>.orElse interpolated Attempt.interpolatedStart
      |>.orElse (may Scanned.startQuote) (inString Attempt.startQuote)
      |>.orElse (may Scanned.endQuote) (inString Attempt.endQuote)
      |>.orElse (may Scanned.openBrace) (inString Attempt.openBrace)
      |>.orElse (may Scanned.closeBrace) (inString Attempt.closeBrace)
      |>.orElse (may Scanned.stringContent)
        (inString fun current _ a => Attempt.stringContent current (a.cursor.remaining + 1) a)
    match attempted with
    | .found token memory cursor => some (token, memory.kept, cursor)
    | _ => none

/-- The scanner of C#. -/
def scanner : Scanner (Option StringMemory) := ⟨none, scanStrings⟩

end SourceOutline.CSharp
