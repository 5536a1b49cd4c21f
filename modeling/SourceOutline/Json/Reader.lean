/-
Reading JSON. The reader takes one value off the front of a list of characters
and gives back the rest, so that a statement about a printed value can be made
for any text that follows it. It accepts the grammar of the standard and nothing
else: no comma before a closing bracket, no leading zero, no bare control
character inside a string, nothing but blanks around the value.

A string is read in two steps. The first turns escapes into what they name, a
character or a unit of sixteen bits; the second joins two units that make one
character.
-/
import SourceOutline.Json.Basic

set_option autoImplicit false

namespace SourceOutline.Json

/-! ## Blanks and numerals -/

/-- A blank between the tokens of JSON. -/
def isGap (c : Char) : Bool :=
  c == ' ' || c == '\n' || c == '\t' || c == '\r'

/-- The text from its first character that is not a gap. -/
def skipGap (cs : List Char) : List Char :=
  cs.dropWhile isGap

/-- One or more digits, and the rest. -/
def readDigits (cs : List Char) : Option (List Char × List Char) :=
  let digits := cs.takeWhile Char.isDigit
  if digits.isEmpty then none else some (digits, cs.dropWhile Char.isDigit)

/-- The digits before a point: a zero alone, or digits that do not begin with
one. -/
def readWhole : List Char → Option (List Char × List Char)
  | '0' :: cs => some (['0'], cs)
  | cs => readDigits cs

/-- A point with digits after it, if there is a point. -/
def readFraction : List Char → Option (List Char × List Char)
  | '.' :: cs => (readDigits cs).map fun (digits, rest) => ('.' :: digits, rest)
  | cs => some ([], cs)

/-- An exponent, if there is one. -/
def readExponent : List Char → Option (List Char × List Char)
  | c :: cs =>
    if c == 'e' || c == 'E' then
      match cs with
      | s :: ds =>
        if s == '+' || s == '-' then
          (readDigits ds).map fun (digits, rest) => (c :: s :: digits, rest)
        else (readDigits cs).map fun (digits, rest) => (c :: digits, rest)
      | [] => none
    else some ([], c :: cs)
  | [] => some ([], [])

/-- A numeral without its sign. -/
def readUnsigned (cs : List Char) :
    Option (List Char × List Char × List Char × List Char) := do
  let (whole, rest) ← readWhole cs
  let (fraction, rest) ← readFraction rest
  let (exponent, rest) ← readExponent rest
  return (whole, fraction, exponent, rest)

/-- A numeral, which is a natural number when it is nothing but digits. -/
def readNumeral : List Char → Option (Json × List Char)
  | '-' :: cs => do
    let (whole, fraction, exponent, rest) ← readUnsigned cs
    return (.numeral (String.ofList ('-' :: whole ++ fraction ++ exponent)), rest)
  | cs => do
    let (whole, fraction, exponent, rest) ← readUnsigned cs
    if fraction.isEmpty && exponent.isEmpty then
      return (.nat (Nat.ofDigitChars 10 whole 0), rest)
    else return (.numeral (String.ofList (whole ++ fraction ++ exponent)), rest)

/-! ## Strings -/

/-- What one character or escape of a string stands for. -/
inductive Piece where
  | char (c : Char)
  /-- A unit of sixteen bits, named by its number. -/
  | unit (n : Nat)

/-- The value of a hexadecimal digit. -/
def hexValue? (c : Char) : Option Nat :=
  if c.isDigit then some (c.toNat - '0'.toNat)
  else if 'a' ≤ c ∧ c ≤ 'f' then some (c.toNat - 'a'.toNat + 10)
  else if 'A' ≤ c ∧ c ≤ 'F' then some (c.toNat - 'A'.toNat + 10)
  else none

/-- The value of four hexadecimal digits. -/
def hexUnit? (a b c d : Char) : Option Nat := do
  let a ← hexValue? a
  let b ← hexValue? b
  let c ← hexValue? c
  let d ← hexValue? d
  return ((a * 16 + b) * 16 + c) * 16 + d

/-- What a short escape stands for. -/
def escaped? (c : Char) : Option Char :=
  if c == '\x22' then some '\x22'
  else if c == '\\' then some '\\'
  else if c == '/' then some '/'
  else if c == 'b' then some '\x08'
  else if c == 'f' then some '\x0c'
  else if c == 'n' then some '\n'
  else if c == 'r' then some '\r'
  else if c == 't' then some '\t'
  else none

/-- The pieces of a string up to its closing quote, and the rest. -/
def readPieces : List Char → Option (List Piece × List Char)
  | [] => none
  | '\x22' :: cs => some ([], cs)
  | '\\' :: 'u' :: a :: b :: c :: d :: cs => do
    let unit ← hexUnit? a b c d
    let (pieces, rest) ← readPieces cs
    return (.unit unit :: pieces, rest)
  | '\\' :: e :: cs => do
    let c ← escaped? e
    let (pieces, rest) ← readPieces cs
    return (.char c :: pieces, rest)
  | c :: cs => do
    if c.toNat < 32 || c == '\\' then none
    let (pieces, rest) ← readPieces cs
    return (.char c :: pieces, rest)

/-- The first half of a character outside the basic plane. -/
def isHighUnit (n : Nat) : Bool := 0xd800 ≤ n && n < 0xdc00

/-- The second half of a character outside the basic plane. -/
def isLowUnit (n : Nat) : Bool := 0xdc00 ≤ n && n < 0xe000

/-- The characters that pieces stand for. There are none when a half stands
alone. -/
def joinPieces : List Piece → Option (List Char)
  | [] => some []
  | .char c :: pieces => (joinPieces pieces).map (c :: ·)
  | .unit high :: .unit low :: pieces =>
    if isHighUnit high && isLowUnit low then
      (joinPieces pieces).map
        (Char.ofNat (0x10000 + (high - 0xd800) * 0x400 + (low - 0xdc00)) :: ·)
    else if isHighUnit high || isLowUnit high then none
    else (joinPieces (.unit low :: pieces)).map (Char.ofNat high :: ·)
  | .unit n :: pieces =>
    if isHighUnit n || isLowUnit n then none
    else (joinPieces pieces).map (Char.ofNat n :: ·)

/-- A string after its opening quote: its text, when it is text, and the rest. -/
def readString (cs : List Char) : Option (Option String × List Char) :=
  (readPieces cs).map fun (pieces, rest) => ((joinPieces pieces).map String.ofList, rest)

/-! ## Values -/

/-- A word such as `true`, and the rest. -/
def readWord (word : List Char) (value : Json) (cs : List Char) : Option (Json × List Char) :=
  if word.isPrefixOf cs then some (value, cs.drop word.length) else none

/-- The object of some fields. If a name is not text, neither is the object. -/
def ofFields (field : Option (String × Json)) (fields : List (Option (String × Json))) : Json :=
  if (field :: fields).all Option.isSome then .obj ((field :: fields).filterMap id) else .halved

mutual

/-- One value, with gaps before it. The first argument bounds the depth of the
recursion; the length of the text is always enough. -/
def readValue : Nat → List Char → Option (Json × List Char)
  | 0, _ => none
  | fuel + 1, cs =>
    match skipGap cs with
    | '[' :: cs =>
      match skipGap cs with
      | ']' :: rest => some (.arr [], rest)
      | cs => do
        let (item, rest) ← readValue fuel cs
        let (items, rest) ← readItems fuel (skipGap rest)
        return (.arr (item :: items), rest)
    | '\x7b' :: cs =>
      match skipGap cs with
      | '\x7d' :: rest => some (.obj [], rest)
      | cs => do
        let (field, rest) ← readField fuel cs
        let (fields, rest) ← readFields fuel (skipGap rest)
        return (ofFields field fields, rest)
    | '\x22' :: cs =>
      (readString cs).map fun (text, rest) => ((text.map Json.str).getD .halved, rest)
    | 't' :: cs => readWord "rue".toList (.bool true) cs
    | 'f' :: cs => readWord "alse".toList (.bool false) cs
    | 'n' :: cs => readWord "ull".toList .null cs
    | cs => readNumeral cs

/-- The further items of an array and its closing bracket. -/
def readItems : Nat → List Char → Option (List Json × List Char)
  | 0, _ => none
  | fuel + 1, cs =>
    match cs with
    | ']' :: rest => some ([], rest)
    | ',' :: cs => do
      let (item, rest) ← readValue fuel cs
      let (items, rest) ← readItems fuel (skipGap rest)
      return (item :: items, rest)
    | _ => none

/-- A name, a colon and a value. There is no field if the name is not text. -/
def readField : Nat → List Char → Option (Option (String × Json) × List Char)
  | 0, _ => none
  | fuel + 1, cs =>
    match cs with
    | '\x22' :: cs => do
      let (name, rest) ← readString cs
      match skipGap rest with
      | ':' :: rest =>
        let (value, rest) ← readValue fuel rest
        return (name.map fun name => (name, value), rest)
      | _ => none
    | _ => none

/-- The further fields of an object and its closing bracket. -/
def readFields : Nat → List Char → Option (List (Option (String × Json)) × List Char)
  | 0, _ => none
  | fuel + 1, cs =>
    match cs with
    | '\x7d' :: rest => some ([], rest)
    | ',' :: cs => do
      let (field, rest) ← readField fuel (skipGap cs)
      let (fields, rest) ← readFields fuel (skipGap rest)
      return (field :: fields, rest)
    | _ => none

end

/-- The value a text holds, when it holds one and nothing else. -/
def parse? (text : String) : Option Json := do
  let (value, rest) ← readValue (text.toList.length + 1) text.toList
  if (skipGap rest).isEmpty then return value else none

/-! ## Documents -/

mutual

/-- How many brackets of a value stand inside one another. -/
def nesting : Json → Nat
  | .arr items => nestingItems items + 1
  | .obj fields => nestingFields fields + 1
  | _ => 0

/-- How many brackets stand inside one another in an item. -/
def nestingItems : List Json → Nat
  | [] => 0
  | item :: items => max item.nesting (nestingItems items)

/-- How many brackets stand inside one another in a field. -/
def nestingFields : List (String × Json) → Nat
  | [] => 0
  | (_, value) :: fields => max value.nesting (nestingFields fields)

end

/-- How many brackets may stand inside one another in a document. -/
def nestingLimit : Nat := 127

/-- The value of a text of which every part is wanted. A reader that looks for some fields
and passes over everything else has no use for the limit; one that keeps all it reads goes
down with the brackets, and stops at a depth that is fixed beforehand. -/
def document? (text : String) : Option Json := do
  let value ← parse? text
  if value.nesting ≤ nestingLimit then return value else none

end SourceOutline.Json
