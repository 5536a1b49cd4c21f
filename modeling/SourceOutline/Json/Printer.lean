/-
Writing JSON. The layout on file gives every item and every field a line of its
own, indented two spaces per level; an empty array or object stays on its line.
The compact layout has no blanks at all. Both write strings the same way: the
quote, the backslash and the control characters below the space are escaped, and
every other character stands for itself.
-/
import SourceOutline.Json.Basic

set_option autoImplicit false

namespace SourceOutline.Json

/-! ## Strings -/

/-- The written form of a character inside a string. -/
def escapeChar (c : Char) : List Char :=
  if c = '\x22' then ['\\', '\x22']
  else if c = '\\' then ['\\', '\\']
  else if c = '\n' then ['\\', 'n']
  else if c = '\r' then ['\\', 'r']
  else if c = '\t' then ['\\', 't']
  else if c = '\x08' then ['\\', 'b']
  else if c = '\x0c' then ['\\', 'f']
  else if c.toNat < 32 then
    ['\\', 'u', '0', '0', Nat.digitChar (c.toNat / 16), Nat.digitChar (c.toNat % 16)]
  else [c]

/-- A string between quotes. -/
def quoted (s : String) : List Char :=
  '\x22' :: s.toList.flatMap escapeChar ++ ['\x22']

/-- The written form of a value without parts. A halved string cannot be written
back, so a null stands for it. -/
def atom : Json → List Char
  | .bool true => "true".toList
  | .bool false => "false".toList
  | .nat n => Nat.toDigits 10 n
  | .numeral text => text.toList
  | .str s => quoted s
  | _ => "null".toList

/-! ## The layout on file -/

/-- A new line, indented to a level. -/
def newLine (level : Nat) : List Char :=
  '\n' :: List.replicate (2 * level) ' '

mutual

/-- A value that stands at a level. -/
def prettyAt (level : Nat) : Json → List Char
  | .arr [] => ['[', ']']
  | .arr (item :: items) =>
    '[' :: newLine (level + 1) ++ prettyAt (level + 1) item ++ prettyItems level items
  | .obj [] => ['\x7b', '\x7d']
  | .obj ((name, value) :: fields) =>
    '\x7b' :: newLine (level + 1) ++ quoted name ++ [':', ' ']
      ++ prettyAt (level + 1) value ++ prettyFields level fields
  | value => atom value

/-- The further items of an array that stands at a level, and its end. -/
def prettyItems (level : Nat) : List Json → List Char
  | [] => newLine level ++ [']']
  | item :: items =>
    ',' :: newLine (level + 1) ++ prettyAt (level + 1) item ++ prettyItems level items

/-- The further fields of an object that stands at a level, and its end. -/
def prettyFields (level : Nat) : List (String × Json) → List Char
  | [] => newLine level ++ ['\x7d']
  | (name, value) :: fields =>
    ',' :: newLine (level + 1) ++ quoted name ++ [':', ' ']
      ++ prettyAt (level + 1) value ++ prettyFields level fields

end

/-- The layout on file, without a final line end. -/
def pretty (value : Json) : String :=
  String.ofList (prettyAt 0 value)

/-! ## The compact layout -/

mutual

/-- A value without blanks. -/
def compactChars : Json → List Char
  | .arr [] => ['[', ']']
  | .arr (item :: items) => '[' :: compactChars item ++ compactItems items
  | .obj [] => ['\x7b', '\x7d']
  | .obj ((name, value) :: fields) =>
    '\x7b' :: quoted name ++ [':'] ++ compactChars value ++ compactFields fields
  | value => atom value

/-- The further items of an array, and its end. -/
def compactItems : List Json → List Char
  | [] => [']']
  | item :: items => ',' :: compactChars item ++ compactItems items

/-- The further fields of an object, and its end. -/
def compactFields : List (String × Json) → List Char
  | [] => ['\x7d']
  | (name, value) :: fields =>
    ',' :: quoted name ++ [':'] ++ compactChars value ++ compactFields fields

end

/-- The compact layout. -/
def compact (value : Json) : String :=
  String.ofList (compactChars value)

end SourceOutline.Json
