/-
Reading TOML. Each reader takes what it knows off the front of the text and gives
back the rest. Values may nest, so their readers are bounded by the length of the
text.
-/
import SourceOutline.Text.Decimal
import SourceOutline.Toml.Basic

set_option autoImplicit false

namespace SourceOutline.Toml

/-! ## Blanks, comments and line ends -/

/-- A space or a tab. -/
def isGap (c : Char) : Bool := c == ' ' || c == '\t'

/-- The text after its leading spaces and tabs. -/
def skipGap (cs : List Char) : List Char := cs.dropWhile isGap

/-- A character a comment or a string may hold: no control character but the tab. -/
def isPrintable (c : Char) : Bool :=
  c == '\t' || (32 ≤ c.toNat && c.toNat != 127)

/-- The text after a comment, if one begins here. -/
def skipComment : List Char → List Char
  | '#' :: cs => cs.dropWhile isPrintable
  | cs => cs

/-- The text after a line end. -/
def lineEnd? : List Char → Option (List Char)
  | '\n' :: cs => some cs
  | '\r' :: '\n' :: cs => some cs
  | _ => none

/-- The text after the rest of a line, which may hold a comment. -/
def finishLine? (cs : List Char) : Option (List Char) :=
  match skipComment (skipGap cs) with
  | [] => some []
  | cs => lineEnd? cs

/-- The text after blanks, comments and line ends. -/
def skipLines : Nat → List Char → List Char
  | 0, cs => cs
  | fuel + 1, cs =>
    let cs := skipComment (skipGap cs)
    match lineEnd? cs with
    | some rest => skipLines fuel rest
    | none => cs

/-! ## Strings -/

/-- The value of a hexadecimal digit. -/
def hexValue? (c : Char) : Option Nat :=
  if c.isDigit then some (c.toNat - '0'.toNat)
  else if 'a' ≤ c ∧ c ≤ 'f' then some (c.toNat - 'a'.toNat + 10)
  else if 'A' ≤ c ∧ c ≤ 'F' then some (c.toNat - 'A'.toNat + 10)
  else none

/-- A character given by hexadecimal digits. -/
def hexChar? (digits : List Char) : Option Char := do
  let values ← digits.mapM hexValue?
  let n := values.foldl (fun n digit => n * 16 + digit) 0
  if n < 0xd800 || (0xdfff < n && n < 0x110000) then some (Char.ofNat n) else none

/-- The character an escape stands for, after its backslash. -/
def readEscape : List Char → Option (Char × List Char)
  | 'u' :: cs =>
    if cs.length < 4 then none else (hexChar? (cs.take 4)).map fun c => (c, cs.drop 4)
  | 'U' :: cs =>
    if cs.length < 8 then none else (hexChar? (cs.take 8)).map fun c => (c, cs.drop 8)
  | 'b' :: cs => some ('\x08', cs)
  | 't' :: cs => some ('\t', cs)
  | 'n' :: cs => some ('\n', cs)
  | 'f' :: cs => some ('\x0c', cs)
  | 'r' :: cs => some ('\r', cs)
  | '\x22' :: cs => some ('\x22', cs)
  | '\\' :: cs => some ('\\', cs)
  | _ => none

/-- A string with escapes, after its opening quote. -/
def readBasic : Nat → List Char → Option (List Char × List Char)
  | 0, _ => none
  | fuel + 1, cs =>
    match cs with
    | [] => none
    | '\x22' :: cs => some ([], cs)
    | '\\' :: cs => do
      let (c, rest) ← readEscape cs
      let (text, rest) ← readBasic fuel rest
      return (c :: text, rest)
    | c :: cs => do
      if !isPrintable c then none
      let (text, rest) ← readBasic fuel cs
      return (c :: text, rest)

/-- A string without escapes, after its opening quote. -/
def readLiteral : List Char → Option (List Char × List Char)
  | [] => none
  | '\x27' :: cs => some ([], cs)
  | c :: cs => do
    if !isPrintable c then none
    let (text, rest) ← readLiteral cs
    return (c :: text, rest)

/-- The text after the blanks and line ends that an escaped line end swallows. -/
def skipFolded : Nat → List Char → List Char
  | 0, cs => cs
  | fuel + 1, cs =>
    let cs := skipGap cs
    match lineEnd? cs with
    | some rest => skipFolded fuel rest
    | none => cs

/-- The quotes at the end of a string over several lines: up to two of them belong
to the string. -/
def closingQuotes? (quote : Char) (cs : List Char) : Option (List Char × List Char) :=
  let count := (cs.takeWhile (· == quote)).length
  if count < 3 then none
  else
    let own := min (count - 3) 2
    some (List.replicate own quote, cs.drop (own + 3))

/-- A string with escapes that may run over several lines, after its opening
quotes. -/
def readLongBasic : Nat → List Char → Option (List Char × List Char)
  | 0, _ => none
  | fuel + 1, cs =>
    match closingQuotes? '\x22' cs with
    | some closing => some closing
    | none =>
      match lineEnd? cs with
      | some rest => (readLongBasic fuel rest).map fun (text, rest) => ('\n' :: text, rest)
      | none =>
        match cs with
        | [] => none
        | '\\' :: cs =>
          match lineEnd? (skipGap cs) with
          | some rest => readLongBasic fuel (skipFolded cs.length rest)
          | none => do
            let (c, rest) ← readEscape cs
            let (text, rest) ← readLongBasic fuel rest
            return (c :: text, rest)
        | c :: cs => do
          if !isPrintable c then none
          let (text, rest) ← readLongBasic fuel cs
          return (c :: text, rest)

/-- A string without escapes that may run over several lines, after its opening
quotes. -/
def readLongLiteral : Nat → List Char → Option (List Char × List Char)
  | 0, _ => none
  | fuel + 1, cs =>
    match closingQuotes? '\x27' cs with
    | some closing => some closing
    | none =>
      match lineEnd? cs with
      | some rest => (readLongLiteral fuel rest).map fun (text, rest) => ('\n' :: text, rest)
      | none =>
        match cs with
        | [] => none
        | c :: cs => do
          if !isPrintable c then none
          let (text, rest) ← readLongLiteral fuel cs
          return (c :: text, rest)

/-- The text after a line end that follows opening quotes directly. -/
def dropLineEnd (cs : List Char) : List Char := (lineEnd? cs).getD cs

/-- A string of any of the four forms. -/
def readString (cs : List Char) : Option (String × List Char) :=
  let result := match cs with
    | '\x22' :: '\x22' :: '\x22' :: rest => readLongBasic (rest.length + 1) (dropLineEnd rest)
    | '\x27' :: '\x27' :: '\x27' :: rest => readLongLiteral (rest.length + 1) (dropLineEnd rest)
    | '\x22' :: rest => readBasic (rest.length + 1) rest
    | '\x27' :: rest => readLiteral rest
    | _ => none
  result.map fun (text, rest) => (String.ofList text, rest)

/-! ## Keys -/

/-- A character of a key that goes without quotes. -/
def isBareKey (c : Char) : Bool :=
  c.isAlphanum || c == '_' || c == '-'

/-- One segment of a key. -/
def readSimpleKey (cs : List Char) : Option (String × List Char) :=
  match cs with
  | '\x22' :: rest =>
    (readBasic (rest.length + 1) rest).map fun (text, rest) => (String.ofList text, rest)
  | '\x27' :: rest => (readLiteral rest).map fun (text, rest) => (String.ofList text, rest)
  | _ =>
    let key := cs.takeWhile isBareKey
    if key.isEmpty then none else some (String.ofList key, cs.dropWhile isBareKey)

/-- The number of segments and of brackets inside each other that is too much. -/
def nestingLimit : Nat := 80

/-- The segments of a dotted key, up to a number of them: the leading ones, the last one
and the rest. -/
def readSegments : Nat → List Char → Option (List String × String × List Char)
  | 0, _ => none
  | room + 1, cs => do
    let (segment, rest) ← readSimpleKey (skipGap cs)
    match skipGap rest with
    | '.' :: rest =>
      let (path, last, rest) ← readSegments room rest
      return (segment :: path, last, rest)
    | rest => return ([], segment, rest)

/-- A dotted key: its leading segments, its last one and the rest. -/
def readKey (cs : List Char) : Option (List String × String × List Char) :=
  readSegments (nestingLimit - 1) cs

/-! ## Numbers and dates -/

/-- Digits of a class with single underscores between them. -/
def readGrouped (isDigit : Char → Bool) : List Char → Option (List Char × List Char)
  | c :: '_' :: d :: rest =>
    if isDigit c then
      if isDigit d then
        (readGrouped isDigit (d :: rest)).map fun (digits, rest) => (c :: digits, rest)
      else none
    else none
  | [_, '_'] => none
  | c :: rest =>
    if isDigit c then
      match rest with
      | d :: _ =>
        if isDigit d then
          (readGrouped isDigit rest).map fun (digits, rest) => (c :: digits, rest)
        else some ([c], rest)
      | [] => some ([c], [])
    else none
  | [] => none

/-- A sign, if there is one. -/
def readSign : List Char → List Char × List Char
  | '+' :: cs => (['+'], cs)
  | '-' :: cs => (['-'], cs)
  | cs => ([], cs)

/-- Decimal digits without a leading zero. -/
def readDecimal (cs : List Char) : Option (List Char × List Char) :=
  match cs with
  | '0' :: rest =>
    match rest with
    | c :: _ => if c.isDigit || c == '_' then none else some (['0'], rest)
    | [] => some (['0'], [])
  | _ => readGrouped Char.isDigit cs

/-- The value of digits in a base. -/
def digitsValue (base : Nat) (digits : List Char) : Nat :=
  digits.foldl (fun n c => n * base + ((hexValue? c).getD 0)) 0

/-- An integer after a base mark, which has to fit into sixty-four bits. -/
def readBased (base : Nat) (cs : List Char) : Option (Toml × List Char) := do
  let isDigit := fun c => match hexValue? c with
    | some n => n < base
    | none => false
  let (digits, rest) ← readGrouped isDigit cs
  if digitsValue base digits < 1 <<< 63 then return (.number (String.ofList digits), rest) else none

/-- The fraction and the exponent after a whole part. At least one of them is
there. -/
def readReal (cs : List Char) : Option (List Char × List Char) := do
  let (fraction, rest) ← match cs with
    | '.' :: cs => (readGrouped Char.isDigit cs).map fun (digits, rest) => ('.' :: digits, rest)
    | cs => some ([], cs)
  let (exponent, rest) ← match rest with
    | c :: cs =>
      if c == 'e' || c == 'E' then
        let (sign, cs) := readSign cs
        (readGrouped Char.isDigit cs).map fun (digits, rest) => (c :: sign ++ digits, rest)
      else some ([], rest)
    | [] => some ([], [])
  if fraction.isEmpty && exponent.isEmpty then none else return (fraction ++ exponent, rest)

/-- An infinity or a number that is none, after its sign. -/
def readSpecial (sign : List Char) : List Char → Option (Toml × List Char)
  | 'i' :: 'n' :: 'f' :: cs => some (.number (String.ofList (sign ++ ['i', 'n', 'f'])), cs)
  | 'n' :: 'a' :: 'n' :: cs => some (.number (String.ofList (sign ++ ['n', 'a', 'n'])), cs)
  | _ => none

/-- A number with or without a fraction. One that is too large to be told from
infinity is refused. -/
def readNumber (cs : List Char) : Option (Toml × List Char) :=
  match cs with
  | '0' :: 'x' :: cs => readBased 16 cs
  | '0' :: 'o' :: cs => readBased 8 cs
  | '0' :: 'b' :: cs => readBased 2 cs
  | _ =>
    let (sign, body) := readSign cs
    match readSpecial sign body with
    | some special => some special
    | none => do
      let (whole, rest) ← readDecimal body
      match readReal rest with
      | some (tail, rest) =>
        if sign == ['-'] || Text.isDecimal (whole ++ tail) then
          return (.number (String.ofList (sign ++ whole ++ tail)), rest)
        else none
      | none =>
        let limit := if sign == ['-'] then 1 <<< 63 + 1 else 1 <<< 63
        if digitsValue 10 whole < limit then
          return (.number (String.ofList (sign ++ whole)), rest)
        else none

/-- A number of exactly so many digits, within bounds. -/
def readFixed (width low high : Nat) (cs : List Char) : Option (Nat × List Char) :=
  let digits := cs.take width
  let n := digitsValue 10 digits
  if digits.length = width && digits.all Char.isDigit && low ≤ n && n ≤ high then
    some (n, cs.drop width)
  else none

/-- The text after a given character. -/
def expect (c : Char) : List Char → Option (List Char)
  | d :: cs => if d = c then some cs else none
  | [] => none

/-- The number of days of a month. -/
def monthDays (year month : Nat) : Nat :=
  if month = 2 then
    if (year % 4 = 0 && year % 100 != 0) || year % 400 = 0 then 29 else 28
  else if month = 4 || month = 6 || month = 9 || month = 11 then 30
  else 31

/-- The rest after a date. -/
def skipDate (cs : List Char) : Option (List Char) := do
  let (year, rest) ← readFixed 4 0 9999 cs
  let (month, rest) ← readFixed 2 1 12 (← expect '-' rest)
  let (_, rest) ← readFixed 2 1 (monthDays year month) (← expect '-' rest)
  return rest

/-- The rest after a time of day. -/
def skipTime (cs : List Char) : Option (List Char) := do
  let (_, rest) ← readFixed 2 0 23 cs
  let (_, rest) ← readFixed 2 0 59 (← expect ':' rest)
  let (_, rest) ← readFixed 2 0 60 (← expect ':' rest)
  match rest with
  | '.' :: rest =>
    if (rest.takeWhile Char.isDigit).isEmpty then none else return rest.dropWhile Char.isDigit
  | rest => return rest

/-- The rest after an offset from universal time, if there is one. -/
def skipOffset (cs : List Char) : Option (List Char) :=
  match cs with
  | [] => some []
  | c :: rest =>
    if c == 'Z' || c == 'z' then some rest
    else if c == '+' || c == '-' then do
      let (_, rest) ← readFixed 2 0 23 rest
      let (_, rest) ← readFixed 2 0 59 (← expect ':' rest)
      return rest
    else some cs

/-- The rest after a date, a time, or both. -/
def skipMoment (cs : List Char) : Option (List Char) :=
  match skipDate cs with
  | some rest =>
    match rest with
    | c :: time =>
      if c == 'T' || c == 't' || c == ' ' then
        match skipTime time with
        | some rest => skipOffset rest
        | none => if c == ' ' then some rest else none
      else some rest
    | [] => some []
  | none => skipTime cs

/-- A number, a date or a time. -/
def readScalar (cs : List Char) : Option (Toml × List Char) :=
  match skipMoment cs with
  | some rest => some (.moment (String.ofList (cs.take (cs.length - rest.length))), rest)
  | none => readNumber cs

/-! ## Values -/

mutual

/-- One value, at the front of the text. `room` brackets may open inside each other. -/
def readValue : Nat → Nat → List Char → Option (Toml × List Char)
  | 0, _, _ => none
  | fuel + 1, room, cs =>
    match cs with
    | '[' :: rest => do
      if room = 0 then none
      let (items, rest) ← readItems fuel (room - 1) rest
      return (.array items, rest)
    | '\x7b' :: rest => do
      if room = 0 then none
      let (entries, rest) ← match skipGap rest with
        | '\x7d' :: rest => some ([], rest)
        | rest => readEntries fuel (room - 1) rest
      let entries ← buildInline? entries
      return (.table entries, rest)
    | 't' :: 'r' :: 'u' :: 'e' :: rest => some (.bool true, rest)
    | 'f' :: 'a' :: 'l' :: 's' :: 'e' :: rest => some (.bool false, rest)
    | '\x22' :: _ => (readString cs).map fun (text, rest) => (.str text, rest)
    | '\x27' :: _ => (readString cs).map fun (text, rest) => (.str text, rest)
    | _ => readScalar cs

/-- The items of an array and its closing bracket. A comma may follow the last
item. -/
def readItems : Nat → Nat → List Char → Option (List Toml × List Char)
  | 0, _, _ => none
  | fuel + 1, room, cs =>
    match skipLines (cs.length + 1) cs with
    | ']' :: rest => some ([], rest)
    | cs => do
      let (item, rest) ← readValue fuel room cs
      match skipLines (rest.length + 1) rest with
      | ']' :: rest => return ([item], rest)
      | ',' :: rest =>
        let (items, rest) ← readItems fuel room rest
        return (item :: items, rest)
      | _ => none

/-- The entries of an inline table and its closing bracket. No comma may follow the
last entry. -/
def readEntries :
    Nat → Nat → List Char → Option (List (List String × String × Toml) × List Char)
  | 0, _, _ => none
  | fuel + 1, room, cs => do
    let (path, key, rest) ← readKey cs
    let rest ← expect '=' rest
    let (value, rest) ← readValue fuel room (skipGap rest)
    match skipGap rest with
    | '\x7d' :: rest => return ([(path, key, value)], rest)
    | ',' :: rest =>
      let (entries, rest) ← readEntries fuel room rest
      return ((path, key, value) :: entries, rest)
    | _ => none

end

/-! ## Documents -/

/-- One statement, at the front of the text. -/
def readStatement (cs : List Char) : Option (Statement × List Char) :=
  match cs with
  | '[' :: '[' :: rest => do
    let (path, key, rest) ← readKey rest
    match rest with
    | ']' :: ']' :: rest => return (.arrayHeader path key, rest)
    | _ => none
  | '[' :: rest => do
    let (path, key, rest) ← readKey rest
    match rest with
    | ']' :: rest => return (.header path key, rest)
    | _ => none
  | _ => do
    let (path, key, rest) ← readKey cs
    let rest ← expect '=' rest
    let (value, rest) ← readValue (rest.length + 1) (nestingLimit - 1) (skipGap rest)
    return (.entry path key value, rest)

/-- The statements of a text, each on a line of its own. -/
def readStatements : Nat → List Char → Option (List Statement)
  | 0, _ => none
  | fuel + 1, cs =>
    match skipLines (cs.length + 1) cs with
    | [] => some []
    | cs => do
      let (statement, rest) ← readStatement cs
      let rest ← finishLine? rest
      let statements ← readStatements fuel rest
      return statement :: statements

/-- The entries of the document a text holds. A mark of the byte order may come
first. -/
def parse? (text : String) : Option (List (String × Toml)) := do
  let cs := match text.toList with
    | '\ufeff' :: cs => cs
    | cs => cs
  let statements ← readStatements (cs.length + 1) cs
  build? statements

end SourceOutline.Toml
