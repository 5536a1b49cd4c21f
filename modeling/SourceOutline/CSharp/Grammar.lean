/-
The grammar of C#. It follows the language closely, but it is more liberal than a
compiler in what it lets stand side by side, so that a fragment of a program can be
read too.
-/
import SourceOutline.CSharp.Rules.Declarations
import SourceOutline.CSharp.Rules.Directives
import SourceOutline.CSharp.Rules.Expressions
import SourceOutline.CSharp.Rules.Literals
import SourceOutline.CSharp.Rules.Patterns
import SourceOutline.CSharp.Rules.Statements
import SourceOutline.CSharp.Rules.Types

set_option autoImplicit false

namespace SourceOutline.CSharp

open Grammar

/-- The grammar of C#. -/
def description : Description where
  definitions :=
    declarationRules ++ typeRules ++ statementRules ++ patternRules ++ expressionRules
      ++ literalRules ++ conditionalSectionRules ++ directiveRules
  separators :=
    [.many1 (.oneOf
      [(0x09, 0x0d), (0x20, 0x20), (0xa0, 0xa0), (0x3000, 0x3000), (0xfeff, 0xfeff)])]
  extras :=
    ["comment", "preproc_region", "preproc_endregion", "preproc_line", "preproc_pragma",
     "preproc_nullable", "preproc_error", "preproc_warning", "preproc_define", "preproc_undef"]
  scanned :=
    [("_optional_semi", false), ("interpolation_regular_start", true),
     ("interpolation_verbatim_start", true), ("interpolation_raw_start", true),
     ("interpolation_start_quote", true), ("interpolation_end_quote", true),
     ("interpolation_open_brace", true), ("interpolation_close_brace", true),
     ("interpolation_string_content", true), ("raw_string_start", true),
     ("raw_string_end", true), ("raw_string_content", true)]
  inlined :=
    ["_namespace_member_declaration", "_nullable_base_type", "_parameter_type_with_modifiers",
     "_top_level_item_no_statement"]
  preferred :=
    [("_anonymous_object_member_declarator", "_simple_name"), ("block", "initializer_expression")]
  word := "_identifier_token"

end SourceOutline.CSharp
