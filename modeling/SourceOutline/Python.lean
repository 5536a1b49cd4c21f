/-
Python, read line by line. A `class` line declares a class and a `def` line a
method, nested by indentation. A property decorator turns the next `def` into a
property, and the decorator of a setter or deleter hides it, because the property
is listed already.
-/
import SourceOutline.LineScan.Structure

set_option autoImplicit false

namespace SourceOutline.Python

open LineScan

/-! ## Parameter lists -/

/-- Characters up to and with the bracket that closes the first one. Round and
square brackets count alike; there is nothing to give when the brackets do not
close. -/
def closedPart? (depth : Nat) : List Char → Option (List Char)
  | [] => none
  | c :: cs =>
    if c == '(' || c == '[' then (closedPart? (depth + 1) cs).map (c :: ·)
    else if c == ')' || c == ']' then
      if depth - 1 = 0 then some [c] else (closedPart? (depth - 1) cs).map (c :: ·)
    else (closedPart? depth cs).map (c :: ·)

/-- A text without the colons at its end. -/
def dropColons (cs : List Char) : List Char :=
  (cs.reverse.dropWhile (· == ':')).reverse

/-- The parameter list of a `def` line with its parentheses, as far as it stands on
the line. -/
def parameterText (cs : List Char) : List Char :=
  match cs.dropWhile (· != '(') with
  | [] => []
  | tail => (closedPart? 0 tail).getD (dropColons tail)

/-! ## Lines -/

/-- What a decorator says about the next `def`. -/
inductive Pending where
  | none
  | property
  | accessor
deriving DecidableEq, Repr

/-- What is pending after a decorator. -/
def Pending.after (decorator : List Char) (pending : Pending) : Pending :=
  let target := Text.trim (decorator.takeWhile (· != '('))
  if target == "property".toList || Text.endsWith "cached_property".toList target then .property
  else if Text.endsWith ".setter".toList target || Text.endsWith ".deleter".toList target then
    .accessor
  else pending

/-- Classifies a `class` line after its keyword. -/
def classLine (cs : List Char) : LineKind :=
  let name := cs.takeWhile fun c => !(c == '(' || c == ':' || Text.isBlank c)
  if name.isEmpty then .plain
  else .declaration { kind := .classType, name := String.ofList name }

/-- Classifies a `def` line after its keyword. -/
def defLine (showSignatures : Bool) (pending : Pending) (cs : List Char) : LineKind :=
  let name := Text.trim (cs.takeWhile (· != '('))
  if name.isEmpty then .plain
  else match pending with
    | .accessor => .plain
    | .property => .declaration { kind := .property, name := String.ofList name }
    | .none =>
      let parameters := Text.collapse (String.ofList (Text.stripParens (parameterText cs)))
      .declaration {
        kind := .method, name := String.ofList name
        signature := some { parameters := parameters, shown := showSignatures } }

/-- Classifies one line. -/
def classify (showSignatures : Bool) (pending : Pending) (line : List Char) :
    LineKind × Pending :=
  let text := Text.trim line
  if Text.startsWith ['#'] text then (.skip, pending)
  else match Text.dropStart? ['@'] text with
    | some decorator => (.skip, pending.after decorator)
    | none =>
      match Text.dropStart? "class ".toList text with
      | some rest => (classLine rest, .none)
      | none =>
        match (Text.dropStart? "def ".toList text).or
            (Text.dropStart? "async def ".toList text) with
        | some rest => (defLine showSignatures pending rest, .none)
        | none => (.plain, pending)

/-- The classifier of Python lines. -/
def classifier (showSignatures : Bool) : Classifier Pending where
  initial := .none
  step := classify showSignatures

/-- The members of a Python source. -/
def members (showSignatures : Bool) (source : String) : Forest :=
  LineScan.forest (classifier showSignatures) source

end SourceOutline.Python
