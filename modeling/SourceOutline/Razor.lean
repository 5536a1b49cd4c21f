/-
Razor components. Of such a file only the code section is read: the lines from the
first code directive on. The directive is replaced by the head of a class named for
the component, which turns the section into a C# text.
-/
import SourceOutline.CSharp.Declarations

set_option autoImplicit false

namespace SourceOutline.Razor

/-- The directives that open a code section. -/
def directives : List String := ["@code", "@functions"]

/-- Whether a line opens a code section with a directive: the directive stands at its
beginning and a brace comes after it. -/
def opensWith (line : List Char) (directive : String) : Bool :=
  match Text.dropStart? directive.toList (Text.trimStart line) with
  | some rest => Text.startsWith ['\x7b'] (Text.trimStart rest)
  | none => false

/-- The directive with which a line opens a code section. -/
def opening? (line : List Char) : Option String := directives.find? (opensWith line)

/-- A text with the first occurrence of a part replaced. -/
def replaceFirst (part replacement : List Char) : List Char → List Char
  | [] => []
  | c :: cs =>
    match Text.dropStart? part (c :: cs) with
    | some rest => replacement ++ rest
    | none => c :: replaceFirst part replacement cs

/-- A code section: the number of the line that opens it, and the lines from there on
as a C# text. -/
structure Section where
  line : Nat
  code : String

/-- The code section of some lines, counted from a number. -/
def sectionFrom? (componentName : String) (number : Nat) : List (List Char) → Option Section
  | [] => none
  | line :: rest =>
    match opening? line with
    | some directive =>
      let head := replaceFirst directive.toList ("public class " ++ componentName).toList line
      some ⟨number, String.ofList (Text.join ['\n'] (head :: rest))⟩
    | none => sectionFrom? componentName (number + 1) rest

/-- The code section of a component. -/
def section? (source componentName : String) : Option Section :=
  sectionFrom? componentName 0 (Text.lines source)

/-- What a component declares, given a way to read C#. -/
def mapping (parse : String → CSharp.SyntaxNode) (source : String) (options : MapOptions) :
    Mapping :=
  match section? source options.componentName with
  | some found =>
    let reading : CSharp.Reading :=
      { lineOffset := found.line, showSignatures := options.showSignatures }
    reading.mapping (parse found.code)
  | none => {}

end SourceOutline.Razor
