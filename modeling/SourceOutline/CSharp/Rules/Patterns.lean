/-
Rules of C# for patterns: what a value is matched against.
-/
import SourceOutline.CSharp.Rules.Tokens

set_option autoImplicit false

namespace SourceOutline.CSharp

open Grammar

/-- Rules of patterns. -/
def patternRules : List Definition :=
  [part "pattern" (
     oneOf [
       "constant_pattern", "declaration_pattern", "discard", "recursive_pattern", "var_pattern",
       "negated_pattern", "parenthesized_pattern", "relational_pattern", "or_pattern",
       "and_pattern", "list_pattern", "type_pattern"]),
   node "constant_pattern" (
     oneOf [
       "binary_expression", "default_expression", "interpolated_string_expression",
       "parenthesized_expression", "postfix_unary_expression", "prefix_unary_expression",
       "sizeof_expression", "tuple_expression", "typeof_expression", "member_access_expression",
       "invocation_expression", "cast_expression", "_simple_name", "literal"]),
   node "discard" (literal "_"),
   node "parenthesized_pattern" (sequence [literal "(", "pattern", literal ")"]),
   node "var_pattern" (sequence [literal "var", "_variable_designation"]),
   node "type_pattern" (precRight 0 (field "type" "type")),
   node "list_pattern" (
     precRight 0 (sequence [
         literal "[",
         opt (sequence [commaSeparated1 (oneOf ["pattern", literal ".."]), opt (literal ",")]),
         literal "]", opt "_variable_designation"])),
   node "recursive_pattern" (
     precLeft Level.primary (sequence [
         opt (field "type" "type"),
         oneOf [
           sequence ["positional_pattern_clause", opt "property_pattern_clause"],
           "property_pattern_clause"], opt "_variable_designation"])),
   node "positional_pattern_clause" (
     prec 1 (sequence [literal "(", commaSeparated "subpattern", literal ")"])),
   node "subpattern" (
     sequence [
       opt (oneOf [sequence ["expression", literal ":"], sequence ["identifier", literal ":"]]),
       "pattern"]),
   node "property_pattern_clause" (
     prec 1 (sequence [openBrace, commaSeparated "subpattern", opt (literal ","), closeBrace])),
   node "relational_pattern" (
     oneOf [
       sequence [literal "<", "expression"], sequence [literal "<=", "expression"],
       sequence [literal ">", "expression"], sequence [literal ">=", "expression"]]),
   node "negated_pattern" (sequence [literal "not", "pattern"]),
   node "and_pattern" (
     precLeft Level.conjunction (sequence [
         field "left" "pattern", field "operator" (literal "and"), field "right" "pattern"])),
   node "or_pattern" (
     precLeft Level.disjunction (sequence [
         field "left" "pattern", field "operator" (literal "or"), field "right" "pattern"])),
   node "declaration_pattern" (sequence [field "type" "type", "_variable_designation"]),
   part "_variable_designation" (
     prec 1 (oneOf ["discard", "parenthesized_variable_designation", field "name" "identifier"])),
   node "parenthesized_variable_designation" (
     sequence [literal "(", commaSeparated "_variable_designation", literal ")"])]

end SourceOutline.CSharp
