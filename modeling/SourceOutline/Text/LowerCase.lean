/-
Lower case for any text. Nearly every character is mapped on its own, through
the table of runs. Two are not: the capital I with a dot above has a lower-case
form of two characters, and the Greek capital sigma becomes a final sigma at the
end of a word and an ordinary one elsewhere.

Filters and title order compare texts after this map, so both ignore case in the
same sense.
-/
import SourceOutline.Text.Basic
import SourceOutline.Text.CaseTable

set_option autoImplicit false

namespace SourceOutline.Text

/-! ## One character -/

/-- The distance from a capital to its small letter, `0` for any other
character. -/
def caseShift (n : Nat) : List CaseRun → Int
  | [] => 0
  | run :: runs =>
    if n < run.first then 0
    else if n ≤ run.last then
      if (n - run.first) % run.stride = 0 then run.shift else caseShift n runs
    else caseShift n runs

/-- The lower-case form of a character that does not depend on its neighbours. -/
def lowerChar (c : Char) : List Char :=
  if c.toNat < 128 then [c.toLower]
  else if c = 'İ' then ['i', '\u0307']
  else [Char.ofNat ((c.toNat : Int) + caseShift c.toNat caseRuns).toNat]

/-! ## The final sigma -/

/-- Whether the first character that is not passed over has case. -/
def meetsCased : List Char → Bool
  | [] => false
  | c :: cs => if isCaseIgnored c then meetsCased cs else isCased c

/-- Lower case of the characters that follow `before`, which is kept in reverse. A
sigma is final when a letter stands before it and none after it. -/
def lowerFrom (before : List Char) : List Char → List Char
  | [] => []
  | c :: cs =>
    let here := if c = 'Σ' then
        if meetsCased before && !meetsCased cs then ['ς'] else ['σ']
      else lowerChar c
    here ++ lowerFrom (c :: before) cs

/-- Lower case of a list of characters. -/
def lowerChars (cs : List Char) : List Char :=
  lowerFrom [] cs

/-- Lower case of a text. -/
def lower (text : String) : String :=
  String.ofList (lowerChars text.toList)

end SourceOutline.Text
