/-
The mappers of this library, one for each language.
-/
import SourceOutline.CSharp.Declarations
import SourceOutline.CSharp.Parser
import SourceOutline.Python
import SourceOutline.Razor
import SourceOutline.Script.Lines
import SourceOutline.Stylesheet

set_option autoImplicit false

namespace SourceOutline

/-- What a C# text declares, given a way to read it. -/
def CSharp.mapping (parse : String → SyntaxNode) (source : String) (options : MapOptions) :
    Mapping :=
  let reading : Reading := { showSignatures := options.showSignatures }
  reading.mapping (parse source)

/-- The mapper of a language. -/
def Language.mapper {σ : Type} : Language → Mapper σ
  | .csharp => .ofFunction .directive true (CSharp.mapping CSharp.parse)
  | .razor => .ofFunction .directive true (Razor.mapping CSharp.parse)
  | .python => .ofFunction .hashComment false fun source options =>
      .wholeFile (Python.members options.showSignatures source)
  | .javascript | .typescript => .ofFunction .lineComment true fun source options =>
      .wholeFile (Script.members options.showSignatures source)
  | .css => .ofFunction .blockComment false fun source _ =>
      .wholeFile (Stylesheet.members source)

/-- Supplies the mapper of every language. -/
def standardFactory {σ : Type} : MapperFactory σ :=
  fun language memory => (.ok language.mapper, memory)

end SourceOutline
