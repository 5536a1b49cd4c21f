/-
Tokens of C#, and small parts that the rules share.
-/
import SourceOutline.Grammar.Rule
import SourceOutline.Text.IdentifierTable

set_option autoImplicit false

namespace SourceOutline.CSharp

open Grammar

/-! ## Levels of precedence -/

namespace Level

def assignment : Int := 1
def conditional : Int := 2
def coalescing : Int := 3
def or : Int := 4
def and : Int := 5
def disjunction : Int := 6
def exclusion : Int := 7
def conjunction : Int := 8
def equality : Int := 9
def relational : Int := 10
def shift : Int := 11
def additive : Int := 12
def multiplicative : Int := 13
def update : Int := 14
def switch : Int := 15
def range : Int := 16
def unary : Int := 17
def primary : Int := 18

end Level

/-! ## Definitions -/

/-- A rule whose nodes appear. -/
def node (name : String) (rule : Expression) : Definition := ⟨name, false, rule⟩

/-- A rule whose nodes do not appear. -/
def part (name : String) (rule : Expression) : Definition := ⟨name, true, rule⟩

def openBrace : Expression := literal "\x7b"

def closeBrace : Expression := literal "\x7d"

/-! ## Words and numbers -/

def digit : Lexeme := .oneOf [(0x30, 0x39)]

def hexDigit : Lexeme := .oneOf [(0x30, 0x39), (0x41, 0x46), (0x61, 0x66)]

/-- The names of the built-in types. -/
def predefinedType : Lexeme :=
  .choice (List.map .text
    ["bool", "byte", "char", "decimal", "double", "float", "int", "long", "object", "sbyte",
     "short", "string", "uint", "ulong", "ushort", "nint", "nuint", "void"])

/-- A character given by its code point. -/
def codePointEscape : Lexeme :=
  .either (.seq (.text "\\u") (.times 4 hexDigit)) (.seq (.text "\\U") (.times 8 hexDigit))

/-- An identifier, with a sign in front that keeps it from being a keyword. -/
def identifier : Lexeme :=
  .sequence [
    .opt (.text "@"),
    .choice [.oneOf Text.identifierStarts, .text "_", codePointEscape],
    .many (.choice [.oneOf Text.identifierParts, codePointEscape])]

/-- Digits that may be grouped by underscores. -/
def digits : Lexeme :=
  .either
    (.sequence [digit, .many (.oneOf [(0x30, 0x39), (0x5f, 0x5f)]), digit])
    digit

/-- A whole number in base ten, sixteen or two. -/
def integer : Lexeme :=
  .seq
    (.choice [
      digits,
      .sequence [
        .text "0", .anyOf "xX",
        .many (.oneOf [(0x30, 0x39), (0x41, 0x46), (0x5f, 0x5f), (0x61, 0x66)]),
        .many1 hexDigit],
      .sequence [.text "0", .anyOf "bB", .many (.anyOf "01_"), .many1 (.anyOf "01")]])
    (.opt (.either
      (.seq (.anyOf "uU") (.opt (.anyOf "lL"))) (.seq (.anyOf "lL") (.opt (.anyOf "uU")))))

/-- A number with a fraction, an exponent or a suffix that says as much. -/
def real : Lexeme :=
  let suffix := Lexeme.anyOf "fFdDmM"
  let exponent := Lexeme.sequence [
    .anyOf "eE", .opt (.anyOf "+-"), digit, .many (.oneOf [(0x30, 0x39), (0x5f, 0x5f)])]
  .choice [
    .sequence [digits, .text ".", digits, .opt exponent, .opt suffix],
    .sequence [.text ".", digits, .opt exponent, .opt suffix],
    .sequence [digits, exponent, .opt suffix],
    .sequence [digits, suffix]]

/-! ## Texts -/

/-- The sign after a text that is to be stored as UTF-8. -/
def stringEncoding : Lexeme := .seq (.anyOf "uU") (.text "8")

/-- A character written in another way. -/
def escape : Lexeme :=
  .choice [
    .seq (.text "\\x") (.between 1 3 hexDigit),
    .seq (.text "\\u") (.times 4 hexDigit),
    .seq (.text "\\U") (.times 8 hexDigit),
    .seq (.text "\\") (.anyOf "abefnrtv'\"\\?0")]

/-- A text in which a backslash means nothing and a quote is written twice. -/
def verbatimString : Lexeme :=
  .sequence [
    .text "@\"", .many (.either (.noneOf "\"") (.text "\"\"")), .text "\"", .opt stringEncoding]

/-- How an interpolated value is formatted. -/
def interpolationFormat : Lexeme := .many1 (.noneOf "\x7d\"")

/-! ## Directives and comments -/

/-- The end of a line. -/
def lineEnd : Expression := token (.text "\n")

/-- A directive: its sign, blanks and its name. -/
def directive (name : String) : Expression :=
  spelled ("#" ++ name) (token (.sequence [.text "#", .many (.anyOf " \t"), .text name]))

/-- The rest of a line after a directive, up to where a comment may begin. -/
def directiveArgument : Lexeme :=
  .seq
    (.oneOf (Text.Ranges.complement [(0x09, 0x0d), (0x20, 0x20)]))
    (.many (.choice [
      .noneOf "/\n",
      .seq (.text "/") (.noneOf "*"),
      .sequence [.text "\\", .opt (.text "\r"), .text "\n"]]))

/-- A comment up to the end of the line, or between two signs. -/
def comment : Lexeme :=
  .either
    (.seq (.text "//") (.many (.noneOf "\n\r")))
    (.sequence [
      .text "/*", .many (.noneOf "*"), .many1 (.text "*"),
      .many (.sequence [.noneOf "/*", .many (.noneOf "*"), .many1 (.text "*")]),
      .text "/"])

end SourceOutline.CSharp
