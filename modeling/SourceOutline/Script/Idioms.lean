/-
The idioms by which JavaScript and TypeScript declare functions and name blocks,
as patterns. Each function idiom keeps the name of the function as its first
group and the parameters, if the line shows them, as its second.
-/
import SourceOutline.Text.Pattern

set_option autoImplicit false

namespace SourceOutline.Script

open Text.Pattern

/-! ## Parts -/

/-- The name of a function. -/
def name : Text.Pattern := capture 1 (span1 Text.isWord)

/-- The text up to a closing parenthesis. -/
def parameters : Text.Pattern := capture 2 (span (noneOf [')']))

/-- An opening parenthesis, parameters, and a closing one if the line has it. -/
def openParameters : Text.Pattern :=
  sequence [char '(', parameters, opt (char ')')]

/-- The word `async` with blanks after it. -/
def asyncWord : Text.Pattern := opt (seq (text "async") blanks1)

/-- The head of a function expression, which may be named and may be a
generator. -/
def functionHead : Text.Pattern :=
  sequence [asyncWord, text "function", wordEdge, opt (char '*'), blanks, span Text.isWord, blanks]

/-- The start of a variable declaration, up to the equals sign and the blanks after
it. -/
def variableHead : Text.Pattern :=
  sequence [textStart, oneOf ["var", "let", "const"], blanks1, name, blanks, char '=', blanks]

/-! ## Functions -/

/-- `window.name = function (…)` -/
def windowMember : Text.Pattern :=
  sequence [text "window.", name, blanks, char '=', blanks, functionHead, opt openParameters]

/-- `window.a.b = function (…)` -/
def windowPath : Text.Pattern :=
  sequence [text "window.", capture 1 (span1 fun c => Text.isWord c || c == '.'), blanks,
    char '=', blanks, functionHead, openParameters]

/-- `name: function (…)`. The name is a whole word, since of a longer and a shorter one the
longer one is found first. -/
def objectProperty : Text.Pattern :=
  sequence [wordEdge, name, blanks, char ':', blanks, functionHead, opt openParameters]

/-- `function name(…)` -/
def functionKeyword : Text.Pattern :=
  sequence [wordEdge, text "function", wordEdge, opt (char '*'), blanks1, name, blanks,
    openParameters]

/-- The words that may stand before the name of a method. -/
def methodModifiers : List String :=
  ["static", "async", "get", "set", "public", "private", "protected", "readonly", "override"]

/-- A colon and a return type. -/
def returnType : Text.Pattern :=
  sequence [char ':', blanks, span1 (noneOf ['\x7b', '='])]

/-- `name(…) {` -/
def bareMethod : Text.Pattern :=
  sequence [textStart, many (seq (oneOf methodModifiers) blanks1), opt (char '*'), name, blanks,
    char '(', parameters, char ')', blanks, opt returnType, char '\x7b']

/-- `const name = function (…)` -/
def variableFunction : Text.Pattern :=
  sequence [variableHead, functionHead, openParameters]

/-- `const name = (…) =>` -/
def variableArrow : Text.Pattern :=
  sequence [variableHead, asyncWord, char '(', parameters, char ')', span (noneOf ['=']),
    text "=>"]

/-- A character a parameter without parentheses may begin with. -/
def isParameterStart (c : Char) : Bool := c.isAlpha || c == '_' || c == '$'

/-- A word character or a dollar sign. -/
def isNameChar (c : Char) : Bool := Text.isWord c || c == '$'

/-- `const name = parameter =>` -/
def variableArrowSingle : Text.Pattern :=
  sequence [variableHead, asyncWord,
    capture 2 (seq (one isParameterStart) (span isNameChar)), blanks, text "=>"]

/-! ## Types and named blocks -/

/-- The words that may stand before a type. -/
def typeModifiers : Text.Pattern :=
  many (seq (oneOf ["export", "default", "abstract", "declare"]) blanks1)

/-- `class Name` or `interface Name` -/
def typeDeclaration : Text.Pattern :=
  sequence [textStart, typeModifiers, capture 1 (oneOf ["class", "interface"]), blanks1,
    capture 2 (span1 isNameChar)]

/-- A dotted name. -/
def dottedName : Text.Pattern :=
  capture 1 (span1 fun c => isNameChar c || c == '.')

/-- `namespace Name`, `module Name` or `enum Name` -/
def typeScope : Text.Pattern :=
  sequence [textStart, typeModifiers, oneOf ["namespace", "module", "enum"], blanks1, dottedName]

/-- An object literal that is given a name and begins at the end of the line. -/
def objectScope : Text.Pattern :=
  sequence [textStart, opt (seq (oneOf ["var", "let", "const"]) blanks1),
    opt (oneOf ["window.", "this.", "module."]), dottedName, blanks,
    one (fun c => c == ':' || c == '='), blanks, char '\x7b', textEnd]

end SourceOutline.Script
