/-
Texts as YAML scalars. A text is written plainly when that reads back as the same
text, and otherwise in the mildest of the other styles that can hold it: between
single quotes, as a literal block, or between double quotes with escapes.

Whether a plain text would read back as something else is decided by `isResolved`:
the words for null and for truth values, and anything that is a number.
-/
import SourceOutline.Text.Basic
import SourceOutline.Text.Decimal

set_option autoImplicit false

namespace SourceOutline.Yaml

/-! ## Texts that would read as something else -/

/-- Whether a text is digits after a leading zero, perhaps with a sign: it looks like
a number and is none. -/
def isZeroPadded (cs : List Char) : Bool :=
  match Text.dropSign ['-', '+'] cs with
  | '0' :: rest => !rest.isEmpty && rest.all Char.isDigit
  | _ => false

/-- The value of a digit in bases up to sixteen. -/
def digitValue? (c : Char) : Option Nat :=
  if c.isDigit then some (c.toNat - '0'.toNat)
  else if 'a' ≤ c ∧ c ≤ 'f' then some (c.toNat - 'a'.toNat + 10)
  else if 'A' ≤ c ∧ c ≤ 'F' then some (c.toNat - 'A'.toNat + 10)
  else none

/-- The value of one or more digits in a base. -/
def numeralValue? (base : Nat) (cs : List Char) : Option Nat :=
  if cs.isEmpty then none
  else cs.foldlM (fun n c =>
    match digitValue? c with
    | some digit => if digit < base then some (n * base + digit) else none
    | none => none) 0

/-- Whether a text is a numeral below a bound. -/
def isNumeralBelow (bound base : Nat) (cs : List Char) : Bool :=
  match numeralValue? base cs with
  | some n => n < bound
  | none => false

/-- Whether a text is an integer of up to one hundred and twenty-eight bits, in
decimal or after a base mark. -/
def isInteger (cs : List Char) : Bool :=
  let (bound, magnitude) := match cs with
    | '-' :: rest => (1 <<< 127 + 1, rest)
    | '+' :: rest => (1 <<< 128, rest)
    | _ => (1 <<< 128, cs)
  let based := match magnitude with
    | '0' :: 'x' :: rest => isNumeralBelow bound 16 rest
    | '0' :: 'o' :: rest => isNumeralBelow bound 8 rest
    | '0' :: 'b' :: rest => isNumeralBelow bound 2 rest
    | _ => false
  based || (!isZeroPadded cs && isNumeralBelow bound 10 magnitude)

/-- Whether a text is a number with a fraction, or one of the words for those that
are not finite. -/
def isReal (cs : List Char) : Bool :=
  let text := String.ofList cs
  let positive := match cs with
    | '+' :: rest => rest
    | _ => cs
  if cs.head? == some '+' && (positive.head? == some '+' || positive.head? == some '-') then false
  else [".inf", ".Inf", ".INF"].contains (String.ofList positive)
    || ["-.inf", "-.Inf", "-.INF", ".nan", ".NaN", ".NAN"].contains text
    || Text.isDecimal positive

/-- The words for null and for truth values. -/
def reservedWords : List String :=
  ["", "~", "null", "Null", "NULL", "true", "True", "TRUE", "false", "False", "FALSE"]

/-- Whether a plain text would read as something other than this text. -/
def isResolved (cs : List Char) : Bool :=
  reservedWords.contains (String.ofList cs) || isInteger cs || isZeroPadded cs || isReal cs

/-! ## What the styles can hold -/

/-- A character that ends a line. -/
def isBreak (c : Char) : Bool :=
  c == '\n' || c == '\r' || c == '\x85' || c == '\u2028' || c == '\u2029'

/-- A character that may stand for itself. -/
def isPrintable (c : Char) : Bool :=
  let n := c.toNat
  n == 10 || (0x20 ≤ n && n ≤ 0x7e) || (0xa0 ≤ n && n != 0xfeff && n != 0xfffe && n != 0xffff)

/-- A blank, a line end, or the end of the text. -/
def isBlankOrEnd : Option Char → Bool
  | none => true
  | some c => c == ' ' || c == '\t' || isBreak c

/-- Whether a character means something where it stands, given its neighbours. -/
def isIndicator (before : Option Char) (c : Char) (after : Option Char) : Bool :=
  match before with
  | none =>
    "#,[]\x7b\x7d&*!|>\x27\x22%@\x60".toList.contains c
      || ((c == '-' || c == '?' || c == ':') && isBlankOrEnd after)
  | some before =>
    (c == ':' && isBlankOrEnd after) || (c == '#' && isBlankOrEnd (some before))

/-- Whether some character means something where it stands. -/
def hasIndicator (before : Option Char) : List Char → Bool
  | [] => false
  | c :: cs => isIndicator before c cs.head? || hasIndicator (some c) cs

/-- Whether the text begins like the mark between two documents. -/
def hasDocumentMark (cs : List Char) : Bool :=
  Text.startsWith ['-', '-', '-'] cs || Text.startsWith ['.', '.', '.'] cs

/-- Whether a space is followed by a line end. -/
def hasSpaceBreak : List Char → Bool
  | ' ' :: c :: cs => isBreak c || hasSpaceBreak (c :: cs)
  | _ :: cs => hasSpaceBreak cs
  | [] => false

/-- Whether a line end is followed by a space. -/
def hasBreakSpace : List Char → Bool
  | b :: c :: cs => (isBreak b && c == ' ') || hasBreakSpace (c :: cs)
  | _ => false

/-- Whether a text has to be escaped to be written at all. -/
def needsEscapes (cs : List Char) : Bool :=
  cs.any (fun c => !isPrintable c) || hasSpaceBreak cs

/-- Whether a text can be written plainly. -/
def allowsPlain (cs : List Char) : Bool :=
  !needsEscapes cs && !hasIndicator none cs && !hasDocumentMark cs && !cs.any isBreak
    && cs.head? != some ' ' && cs.getLast? != some ' '

/-- How a text is written. -/
inductive Style where
  | plain
  | singleQuoted
  | doubleQuoted
  | literal
deriving DecidableEq, Repr

/-- The style of a text. -/
def styleOf (cs : List Char) : Style :=
  if cs.contains '\n' then
    if needsEscapes cs || cs.getLast? == some ' ' then .doubleQuoted else .literal
  else if !isResolved cs && allowsPlain cs then .plain
  else if needsEscapes cs || hasBreakSpace cs then .doubleQuoted
  else .singleQuoted

/-! ## Writing -/

/-- So many spaces. -/
def spaces (n : Nat) : List Char := List.replicate n ' '

/-- Characters with the lines after the first one indented. `fresh` tells whether a
line has just begun. -/
def indentLines (indent : Nat) (fresh : Bool) : List Char → List Char
  | [] => []
  | c :: cs =>
    if isBreak c then c :: indentLines indent true cs
    else (if fresh then spaces indent else []) ++ c :: indentLines indent false cs

/-- An upper-case hexadecimal number of a given width. -/
def hexDigits (width n : Nat) : List Char :=
  let digits := (Nat.toDigits 16 n).map Char.toUpper
  List.replicate (width - digits.length) '0' ++ digits

/-- A character between double quotes. -/
def escapeChar (c : Char) : List Char :=
  if c == '\x22' || c == '\\' then ['\\', c]
  else if isPrintable c && !isBreak c then [c]
  else
    let short := [('\x00', '0'), ('\x07', 'a'), ('\x08', 'b'), ('\t', 't'), ('\n', 'n'),
      ('\x0b', 'v'), ('\x0c', 'f'), ('\r', 'r'), ('\x1b', 'e'), ('\x85', 'N'),
      ('\u2028', 'L'), ('\u2029', 'P')]
    match short.lookup c with
    | some name => ['\\', name]
    | none =>
      if c.toNat < 0x100 then '\\' :: 'x' :: hexDigits 2 c.toNat
      else if c.toNat < 0x10000 then '\\' :: 'u' :: hexDigits 4 c.toNat
      else '\\' :: 'U' :: hexDigits 8 c.toNat

/-- The header of a literal block: an indentation if the text begins with a blank,
and what becomes of the line ends after it. -/
def literalHeader (cs : List Char) : List Char :=
  let hint := match cs.head? with
    | some c => if c == ' ' || isBreak c then ['2'] else []
    | none => []
  let chomping := match cs.reverse with
    | [] => ['-']
    | [c] => if isBreak c then ['+'] else ['-']
    | c :: d :: _ => if !isBreak c then ['-'] else if isBreak d then ['+'] else []
  '|' :: hint ++ chomping

/-- A text as a scalar whose further lines are indented so far, and a line end after
it. -/
def scalarLine (indent : Nat) (text : String) : List Char :=
  let cs := text.toList
  match styleOf cs with
  | .plain => cs ++ ['\n']
  | .singleQuoted =>
    let body := indentLines indent false cs
    let body := body.flatMap fun c => if c == '\x27' then ['\x27', '\x27'] else [c]
    let closing := match cs.getLast? with
      | some c => if isBreak c then spaces indent else []
      | none => []
    '\x27' :: body ++ closing ++ ['\x27', '\n']
  | .doubleQuoted => '\x22' :: cs.flatMap escapeChar ++ ['\x22', '\n']
  | .literal =>
    let closing := match cs.getLast? with
      | some c => if isBreak c then [] else ['\n']
      | none => ['\n']
    literalHeader cs ++ '\n' :: indentLines indent true cs ++ closing

end SourceOutline.Yaml
