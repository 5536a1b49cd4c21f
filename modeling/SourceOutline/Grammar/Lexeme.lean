/-
Patterns of tokens: regular expressions over sets of characters. There is no
capture and no priority among alternatives, because a token is settled by the
characters alone: of all the tokens a place allows, the longest wins.
-/
import SourceOutline.Text.Ranges

set_option autoImplicit false

namespace SourceOutline.Grammar

/-- A pattern of characters. -/
inductive Lexeme where
  /-- The empty text. -/
  | empty
  /-- One character of a set. -/
  | oneOf (set : Text.Ranges)
  | seq (first second : Lexeme)
  | either (first second : Lexeme)
  /-- One or more times. -/
  | many1 (part : Lexeme)
deriving DecidableEq

namespace Lexeme

/-- One after the other. -/
def sequence : List Lexeme → Lexeme
  | [] => empty
  | [part] => part
  | part :: rest => seq part (sequence rest)

/-- One of several. The empty text stands for none. -/
def choice : List Lexeme → Lexeme
  | [] => empty
  | [part] => part
  | part :: rest => either part (choice rest)

/-- Exactly these characters. -/
def text (s : String) : Lexeme :=
  sequence (s.toList.map fun c => oneOf [(c.toNat, c.toNat)])

/-- One of the characters of a text. -/
def anyOf (s : String) : Lexeme := oneOf (.ofChars s)

/-- A character that is not in a text. -/
def noneOf (s : String) : Lexeme := oneOf (Text.Ranges.ofChars s).complement

/-- Once or not at all. -/
def opt (part : Lexeme) : Lexeme := either part empty

/-- Any number of times. -/
def many (part : Lexeme) : Lexeme := opt (many1 part)

/-- A number of times. -/
def times (count : Nat) (part : Lexeme) : Lexeme := sequence (List.replicate count part)

/-- A number of times or more, up to another. -/
def between (least extra : Nat) (part : Lexeme) : Lexeme :=
  seq (times least part) (upTo extra)
where
  /-- At most a number of times. -/
  upTo : Nat → Lexeme
    | 0 => empty
    | n + 1 => opt (seq part (upTo n))

/-- The sets of characters a pattern mentions. -/
def sets : Lexeme → List Text.Ranges
  | empty => []
  | oneOf set => [set]
  | seq first second | either first second => first.sets ++ second.sets
  | many1 part => part.sets

end Lexeme

end SourceOutline.Grammar
