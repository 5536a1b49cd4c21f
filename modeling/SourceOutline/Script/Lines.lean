/-
JavaScript and TypeScript, read line by line. The function idioms are tried in
order, and the first that fits decides. Classes and interfaces are containers;
namespaces, enumerations and object literals only name the block they open.
-/
import SourceOutline.LineScan.Structure
import SourceOutline.Script.Idioms

set_option autoImplicit false

namespace SourceOutline.Script

open LineScan

/-! ## Functions -/

/-- Words that are followed by parentheses and a block, and declare nothing. -/
def controlWords : List String :=
  ["if", "for", "while", "switch", "catch", "with", "else", "do", "try"]

/-- Whether a text is one of the control words. -/
def isControlWord (cs : List Char) : Bool := controlWords.contains (String.ofList cs)

/-- Whether a line that looks like a method is one: neither a control statement nor
a function without a name. -/
def isMethodName (text name : List Char) : Bool :=
  let first := text.takeWhile fun c => !(c == ' ' || c == '(')
  name != "function".toList && !isControlWord name && !isControlWord first

/-- A function idiom with a condition on the line and the name it finds. -/
structure Idiom where
  pattern : Text.Pattern
  accepts : List Char → List Char → Bool := fun _ _ => true

/-- The function idioms, in the order in which they are tried. -/
def idioms : List Idiom :=
  [{ pattern := windowMember }, { pattern := windowPath }, { pattern := objectProperty },
   { pattern := functionKeyword }, { pattern := bareMethod, accepts := isMethodName },
   { pattern := variableFunction }, { pattern := variableArrow },
   { pattern := variableArrowSingle }]

/-- The function an idiom finds on a line. -/
def Idiom.declaration? (showSignatures : Bool) (text : List Char) (idiom : Idiom) :
    Option Declaration := do
  let found ← idiom.pattern.search text
  let name ← found.group? 1
  if !idiom.accepts text name then none
  let parameters := Text.collapse (String.ofList ((found.group? 2).getD []))
  return {
    kind := if name == "constructor".toList then .constructor else .method
    name := String.ofList name
    signature := some { parameters := parameters, shown := showSignatures } }

/-- The function a line declares. -/
def function? (showSignatures : Bool) (text : List Char) : Option Declaration :=
  idioms.findSome? (Idiom.declaration? showSignatures text)

/-! ## Types and named blocks -/

/-- The class or interface a line declares. -/
def type? (text : List Char) : Option Declaration := do
  let found ← typeDeclaration.search text
  let keyword ← found.group? 1
  let name ← found.group? 2
  return {
    kind := if keyword == "interface".toList then .interfaceType else .classType
    name := String.ofList name }

/-- A text without the full stops around it. -/
def trimDots (cs : List Char) : List Char :=
  ((cs.dropWhile (· == '.')).reverse.dropWhile (· == '.')).reverse

/-- The name a line gives to the block it opens. -/
def scope? (text : List Char) : Option (List Char) := do
  if !Text.endsWith ['\x7b'] text then none
  let found ← (typeScope.search text).or (objectScope.search text)
  let name := trimDots (← found.group? 1)
  if name.isEmpty || isControlWord name then none else return name

/-! ## Lines -/

/-- A line without a word it may begin with, and without the blanks after it. -/
def dropLeading (word : String) (text : List Char) : List Char :=
  match Text.dropStart? word.toList text with
  | some rest => Text.trimStart rest
  | none => text

/-- A line without the words that export what it declares. -/
def dropExport (text : List Char) : List Char :=
  dropLeading "default " (dropLeading "export " text)

/-- Whether a line is part of a comment. -/
def isComment (text : List Char) : Bool :=
  Text.startsWith ['/', '/'] text || Text.startsWith ['/', '*'] text || Text.startsWith ['*'] text

/-- Classifies one line. -/
def classify (showSignatures : Bool) (line : List Char) : LineKind :=
  let text := Text.trim line
  if isComment text then .skip
  else
    let text := dropExport text
    match (type? text).or (function? showSignatures text) with
    | some declaration => .declaration declaration
    | none =>
      match scope? text with
      | some name => .scope (String.ofList name)
      | none => .plain

/-- The classifier of script lines, which needs no memory. -/
def classifier (showSignatures : Bool) : Classifier Unit where
  initial := ()
  step := fun _ line => (classify showSignatures line, ())

/-- The members of a script. -/
def members (showSignatures : Bool) (source : String) : Forest :=
  LineScan.forest (classifier showSignatures) source

end SourceOutline.Script
