/-
Rules of C# for statements.
-/
import SourceOutline.CSharp.Rules.Tokens

set_option autoImplicit false

namespace SourceOutline.CSharp

open Grammar

/-- Rules of statements. -/
def statementRules : List Definition :=
  [part "statement" (
     oneOf [
       "block", "break_statement", "checked_statement", "continue_statement", "do_statement",
       "empty_statement", "expression_statement", "fixed_statement", "for_statement",
       "return_statement", "lock_statement", "yield_statement", "switch_statement",
       "throw_statement", "try_statement", "unsafe_statement", "using_statement",
       "foreach_statement", "goto_statement", "labeled_statement", "if_statement",
       "while_statement", "local_declaration_statement", "local_function_statement",
       named "preproc_if" "preproc_if_in_top_level"]),
   node "break_statement" (sequence [literal "break", literal ";"]),
   node "checked_statement" (sequence [literals ["checked", "unchecked"], "block"]),
   node "continue_statement" (sequence [literal "continue", literal ";"]),
   node "do_statement" (
     sequence [
       literal "do", field "body" "statement", literal "while", literal "(",
       field "condition" "expression", literal ")", literal ";"]),
   node "empty_statement" (literal ";"),
   node "expression_statement" (sequence ["_expression_statement_expression", literal ";"]),
   node "fixed_statement" (
     sequence [
       literal "fixed", literal "(", "variable_declaration", literal ")",
       field "body" "statement"]),
   node "for_statement" (sequence ["_for_statement_conditions", field "body" "statement"]),
   part "_for_statement_conditions" (
     sequence [
       literal "for", literal "(",
       field "initializer" (opt (oneOf ["variable_declaration", commaSeparated1 "expression"])),
       literal ";", field "condition" (opt "expression"), literal ";",
       field "update" (opt (commaSeparated1 "expression")), literal ")"]),
   node "return_statement" (sequence [literal "return", opt "expression", literal ";"]),
   node "lock_statement" (
     sequence [literal "lock", literal "(", "expression", literal ")", "statement"]),
   node "yield_statement" (
     sequence [
       literal "yield", oneOf [sequence [literal "return", "expression"], literal "break"],
       literal ";"]),
   node "switch_statement" (
     sequence [
       literal "switch",
       oneOf [
         sequence [literal "(", field "value" "expression", literal ")"],
         field "value" "tuple_expression"], field "body" "switch_body"]),
   node "switch_body" (sequence [openBrace, many "switch_section", closeBrace]),
   node "switch_section" (
     precLeft 0 (sequence [
         oneOf [
           sequence [literal "case", oneOf ["expression", sequence ["pattern", opt "when_clause"]]],
           literal "default"], literal ":", many "statement"])),
   node "throw_statement" (sequence [literal "throw", opt "expression", literal ";"]),
   node "try_statement" (
     sequence [literal "try", field "body" "block", many "catch_clause", opt "finally_clause"]),
   node "catch_clause" (
     sequence [
       literal "catch", many (oneOf ["catch_declaration", "catch_filter_clause"]),
       field "body" "block"]),
   node "catch_declaration" (
     sequence [literal "(", field "type" "type", opt (field "name" "identifier"), literal ")"]),
   node "catch_filter_clause" (sequence [literal "when", literal "(", "expression", literal ")"]),
   node "finally_clause" (sequence [literal "finally", "block"]),
   node "unsafe_statement" (sequence [literal "unsafe", "block"]),
   node "using_statement" (
     sequence [
       opt (literal "await"), literal "using", literal "(",
       oneOf [named "variable_declaration" "using_variable_declaration", "expression"], literal ")",
       field "body" "statement"]),
   node "foreach_statement" (sequence ["_foreach_statement_initializer", field "body" "statement"]),
   part "_foreach_statement_initializer" (
     sequence [
       opt (literal "await"), literal "foreach", literal "(",
       oneOf [
         sequence [field "type" "type", field "left" (oneOf ["identifier", "tuple_pattern"])],
         field "left" "expression"], literal "in", field "right" "expression", literal ")"]),
   node "goto_statement" (
     sequence [literal "goto", opt (literals ["case", "default"]), opt "expression", literal ";"]),
   node "labeled_statement" (sequence ["identifier", literal ":", "statement"]),
   node "if_statement" (
     precRight 0 (sequence [
         literal "if", literal "(", field "condition" "expression", literal ")",
         field "consequence" "statement",
         opt (sequence [literal "else", field "alternative" "statement"])])),
   node "while_statement" (
     sequence [
       literal "while", literal "(", field "condition" "expression", literal ")",
       field "body" "statement"]),
   node "local_declaration_statement" (
     sequence [
       opt (literal "await"), opt (literal "using"), many "modifier", "variable_declaration",
       literal ";"]),
   node "local_function_statement" (sequence ["_local_function_declaration", "_function_body"]),
   part "_local_function_declaration" (
     sequence [
       many "_attribute_list", many "modifier", field "type" "type", field "name" "identifier",
       field "type_parameters" (opt "type_parameter_list"), field "parameters" "parameter_list",
       many "type_parameter_constraints_clause"])]

end SourceOutline.CSharp
