/-
Rules of C# for literals and identifiers.
-/
import SourceOutline.CSharp.Rules.Tokens

set_option autoImplicit false

namespace SourceOutline.CSharp

open Grammar

/-- Rules of literals and identifiers. -/
def literalRules : List Definition :=
  [part "literal" (
     oneOf [
       "null_literal", "character_literal", "integer_literal", "real_literal", "boolean_literal",
       "string_literal", "verbatim_string_literal", "raw_string_literal"]),
   node "null_literal" (literal "null"),
   node "character_literal" (
     sequence [literal "'", oneOf ["character_literal_content", "escape_sequence"], literal "'"]),
   node "character_literal_content" (immediateToken 0 (.noneOf "'\\")),
   node "integer_literal" (token integer),
   node "real_literal" (token real),
   node "string_literal" (
     sequence [
       literal "\"", many (oneOf ["string_literal_content", "escape_sequence"]), literal "\"",
       opt "string_literal_encoding"]),
   node "string_literal_content" (immediateToken 1 (.many1 (.noneOf "\"\\\n"))),
   node "escape_sequence" (token escape),
   node "string_literal_encoding" (immediateToken 0 stringEncoding),
   node "verbatim_string_literal" (token verbatimString),
   node "raw_string_literal" (
     sequence [
       "raw_string_start", "raw_string_content", "raw_string_end", opt (token stringEncoding)]),
   node "boolean_literal" (literals ["true", "false"]),
   part "_identifier_token" (token identifier),
   node "identifier" (oneOf ["_identifier_token", "_reserved_identifier"]),
   part "_reserved_identifier" (
     literals [
       "alias", "ascending", "by", "descending", "equals", "file", "from", "global", "group",
       "into", "join", "let", "notnull", "on", "orderby", "scoped", "select", "unmanaged", "var",
       "when", "where", "yield"])]

end SourceOutline.CSharp
