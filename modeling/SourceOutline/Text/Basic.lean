/-
Text as this library reads it. Every rule about a line, a name or a marker is
stated on the list of characters of the text, so that it can be proved by
induction on that list; `String` is the type of the texts that are stored.

A blank is any white-space character of Unicode, not only those of ASCII.
Trimming, splitting at blanks and collapsing runs of blanks all refer to this
one class. Widths and columns count the bytes of the UTF-8 form.
-/

set_option autoImplicit false

namespace SourceOutline.Text

/-! ## Blanks -/

/-- A white-space character of Unicode. -/
def isBlank (c : Char) : Bool :=
  let n := c.toNat
  (9 ≤ n && n ≤ 13) || n == 0x20 || n == 0x85 || n == 0xa0 || n == 0x1680
    || (0x2000 ≤ n && n ≤ 0x200a) || n == 0x2028 || n == 0x2029 || n == 0x202f
    || n == 0x205f || n == 0x3000

/-- The text without the blanks before it. -/
def trimStart (cs : List Char) : List Char :=
  cs.dropWhile isBlank

/-- The text without the blanks after it. -/
def trimEnd (cs : List Char) : List Char :=
  (cs.reverse.dropWhile isBlank).reverse

/-- The text without the blanks around it. -/
def trim (cs : List Char) : List Char :=
  trimEnd (trimStart cs)

/-- Whether the text has no character but blanks. -/
def isBlankLine (cs : List Char) : Bool :=
  cs.all isBlank

/-! ## Widths -/

/-- The number of bytes of the UTF-8 form. -/
def byteLength (cs : List Char) : Nat :=
  cs.foldr (fun c size => c.utf8Size + size) 0

/-- The width of the blanks a line begins with. -/
def indent (line : List Char) : Nat :=
  byteLength (line.takeWhile isBlank)

/-! ## Beginnings, ends and parts -/

/-- What follows the given beginning, when the text has it. -/
def dropStart? : List Char → List Char → Option (List Char)
  | [], cs => some cs
  | _ :: _, [] => none
  | p :: ps, c :: cs => if p = c then dropStart? ps cs else none

/-- What precedes the given end, when the text has it. -/
def dropEnd? (ending cs : List Char) : Option (List Char) :=
  (dropStart? ending.reverse cs.reverse).map List.reverse

/-- Whether the text begins so. -/
def startsWith (beginning cs : List Char) : Bool :=
  (dropStart? beginning cs).isSome

/-- Whether the text ends so. -/
def endsWith (ending cs : List Char) : Bool :=
  (dropEnd? ending cs).isSome

/-- Whether the first text occurs in the second, at any place. -/
def occursIn (part : List Char) : List Char → Bool
  | [] => startsWith part []
  | c :: cs => startsWith part (c :: cs) || occursIn part cs

/-- A text without the blanks around it and then without one parenthesis on each
side. -/
def stripParens (cs : List Char) : List Char :=
  let cs := trim cs
  let cs := (dropStart? ['('] cs).getD cs
  (dropEnd? [')'] cs).getD cs

/-! ## Splitting -/

/-- The pieces between the characters that satisfy `cut`: always one more than
there are such characters. -/
def splitAt (cut : Char → Bool) : List Char → List (List Char)
  | [] => [[]]
  | c :: cs =>
    if cut c then [] :: splitAt cut cs
    else match splitAt cut cs with
      | [] => [[c]]
      | piece :: pieces => (c :: piece) :: pieces

/-- The words of a text: its longest runs without a blank. -/
def words (cs : List Char) : List (List Char) :=
  (splitAt isBlank cs).filter (fun piece => !piece.isEmpty)

/-- Pieces put together with a separator between them. -/
def join (separator : List Char) : List (List Char) → List Char
  | [] => []
  | [piece] => piece
  | piece :: pieces => piece ++ separator ++ join separator pieces

/-- The text with its words one space apart and nothing around them. -/
def collapse (text : String) : String :=
  String.ofList (join [' '] (words text.toList))

/-- The text before the last occurrence of a character and the text after it. -/
def splitLast? (mark : Char) (cs : List Char) : Option (List Char × List Char) :=
  if cs.contains mark then
    let after := (cs.reverse.takeWhile (· != mark)).reverse
    some (cs.take (cs.length - after.length - 1), after)
  else none

/-! ## Lines -/

/-- The lines of a text. A line ends at a line feed, which takes one carriage
return before it along; the last line may go without. A carriage return anywhere
else is an ordinary character. -/
def linesOf : List Char → List (List Char)
  | [] => []
  | '\r' :: '\n' :: cs => [] :: linesOf cs
  | c :: cs =>
    if c = '\n' then [] :: linesOf cs
    else match linesOf cs with
      | [] => [[c]]
      | line :: lines => (c :: line) :: lines

/-- The lines of a stored text. -/
def lines (source : String) : List (List Char) :=
  linesOf source.toList

/-- Elements paired with their positions, counted from `start`. -/
def numbered {α : Type} (start : Nat) : List α → List (Nat × α)
  | [] => []
  | a :: as => (start, a) :: numbered (start + 1) as

end SourceOutline.Text
