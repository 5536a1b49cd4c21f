/-
Rules of C# for expressions. What may be assigned to is kept apart from what may not,
and only some expressions are statements.
-/
import SourceOutline.CSharp.Rules.Tokens

set_option autoImplicit false

namespace SourceOutline.CSharp

open Grammar

/-- Two expressions with an operator between them. -/
def operation (operand operator : String) : Expression :=
  sequence [field "left" operand, field "operator" (literal operator), field "right" operand]

/-- An operator between two expressions that leans to the left. -/
def binaryLeft (level : Int) (operator : String) : Expression :=
  precLeft level (operation "expression" operator)

/-- Rules of expressions. -/
def expressionRules : List Definition :=
  [part "expression" (oneOf ["non_lvalue_expression", "lvalue_expression"]),
   part "non_lvalue_expression" (
     oneOf ([literal "base"] ++ names [
       "binary_expression", "interpolated_string_expression",
       "conditional_expression", "conditional_access_expression", "literal",
       "_expression_statement_expression", "is_expression", "is_pattern_expression",
       "as_expression", "cast_expression", "checked_expression", "switch_expression",
       "throw_expression", "default_expression", "lambda_expression", "with_expression",
       "sizeof_expression", "typeof_expression", "makeref_expression", "ref_expression",
       "reftype_expression", "refvalue_expression", "stackalloc_expression", "range_expression",
       "array_creation_expression", "anonymous_method_expression",
       "anonymous_object_creation_expression", "implicit_array_creation_expression",
       "implicit_object_creation_expression", "implicit_stackalloc_expression",
       "initializer_expression", "query_expression"]
       ++ [named "preproc_if" "preproc_if_in_expression"])),
   part "lvalue_expression" (
     oneOf [
       literal "this", "member_access_expression", "tuple_expression", "_simple_name",
       "element_access_expression", named "element_binding_expression" "bracketed_argument_list",
       named "prefix_unary_expression" "_pointer_indirection_expression",
       named "parenthesized_expression" "_parenthesized_lvalue_expression"]),
   part "_expression_statement_expression" (
     oneOf [
       "assignment_expression", "invocation_expression", "postfix_unary_expression",
       "prefix_unary_expression", "await_expression", "object_creation_expression",
       "parenthesized_expression"]),
   node "assignment_expression" (
     sequence [
       field "left" "lvalue_expression",
       field "operator" (literals [
           "=", "+=", "-=", "*=", "/=", "%=", "&=", "^=", "|=", "<<=", ">>=", ">>>=", "??="]),
       field "right" "expression"]),
   node "binary_expression" (
     oneOf [
       binaryLeft Level.and "&&", binaryLeft Level.or "||",
       binaryLeft Level.shift ">>", binaryLeft Level.shift ">>>", binaryLeft Level.shift "<<",
       binaryLeft Level.conjunction "&", binaryLeft Level.exclusion "^",
       binaryLeft Level.disjunction "|",
       binaryLeft Level.additive "+", binaryLeft Level.additive "-",
       binaryLeft Level.multiplicative "*", binaryLeft Level.multiplicative "/",
       binaryLeft Level.multiplicative "%",
       binaryLeft Level.relational "<", binaryLeft Level.relational "<=",
       binaryLeft Level.equality "==", binaryLeft Level.equality "!=",
       binaryLeft Level.relational ">=", binaryLeft Level.relational ">",
       precRight Level.coalescing (operation "expression" "??")]),
   node "postfix_unary_expression" (
     prec Level.primary (sequence ["expression", literals ["++", "--", "!"]])),
   node "prefix_unary_expression" (
     prec Level.unary (sequence [
         literals ["++", "--", "+", "-", "!", "~", "&", "^"], "expression"])),
   part "_pointer_indirection_expression" (
     precRight Level.unary (sequence [literal "*", "lvalue_expression"])),
   node "query_expression" (sequence ["from_clause", "_query_body"]),
   node "from_clause" (
     sequence [
       literal "from", opt (field "type" "type"), field "name" "identifier", literal "in",
       "expression"]),
   part "_query_body" (
     precRight 0 (sequence [
         many "_query_clause", "_select_or_group_clause", opt "_query_continuation"])),
   part "_query_clause" (
     oneOf ["from_clause", "join_clause", "let_clause", "order_by_clause", "where_clause"]),
   node "join_clause" (
     sequence [literal "join", "_join_header", "_join_body", opt "join_into_clause"]),
   part "_join_header" (
     sequence [opt (field "type" "type"), "identifier", literal "in", "expression"]),
   part "_join_body" (sequence [literal "on", "expression", literal "equals", "expression"]),
   node "join_into_clause" (sequence [literal "into", "identifier"]),
   node "let_clause" (sequence [literal "let", "identifier", literal "=", "expression"]),
   node "order_by_clause" (sequence [literal "orderby", commaSeparated1 "_ordering"]),
   part "_ordering" (sequence ["expression", opt (literals ["ascending", "descending"])]),
   node "where_clause" (sequence [literal "where", "expression"]),
   part "_select_or_group_clause" (oneOf ["group_clause", "select_clause"]),
   node "group_clause" (
     precRight 0 (sequence [literal "group", "expression", literal "by", "expression"])),
   node "select_clause" (precRight 0 (sequence [literal "select", "expression"])),
   part "_query_continuation" (sequence [literal "into", "identifier", "_query_body"]),
   node "conditional_expression" (
     precRight Level.conditional (sequence [
         field "condition" "expression", literal "?", field "consequence" "expression", literal ":",
         field "alternative" "expression"])),
   node "conditional_access_expression" (
     precRight Level.conditional (sequence [
         field "condition" "expression", literal "?",
         oneOf [
           "member_binding_expression",
           named "element_binding_expression" "bracketed_argument_list"]])),
   node "as_expression" (
     prec Level.equality (sequence [
         field "left" "expression", field "operator" (literal "as"), field "right" "type"])),
   node "is_expression" (
     prec Level.equality (sequence [
         field "left" "expression", field "operator" (literal "is"), field "right" "type"])),
   node "is_pattern_expression" (
     prec Level.equality (sequence [
         field "expression" "expression", literal "is", field "pattern" "pattern"])),
   node "cast_expression" (
     prec Level.unary (weighted 1 (sequence [
         literal "(", field "type" "type", literal ")", field "value" "expression"]))),
   node "checked_expression" (
     sequence [literals ["checked", "unchecked"], literal "(", "expression", literal ")"]),
   node "invocation_expression" (
     prec Level.primary (sequence [
         field "function" "expression", field "arguments" "argument_list"])),
   node "switch_expression" (
     prec Level.switch (sequence ["expression", literal "switch", "_switch_expression_body"])),
   part "_switch_expression_body" (
     sequence [
       openBrace, commaSeparated "switch_expression_arm", opt (literal ","), closeBrace]),
   node "switch_expression_arm" (
     sequence ["pattern", opt "when_clause", literal "=>", "expression"]),
   node "when_clause" (sequence [literal "when", "expression"]),
   node "await_expression" (precRight Level.unary (sequence [literal "await", "expression"])),
   node "throw_expression" (sequence [literal "throw", "expression"]),
   node "element_access_expression" (
     prec Level.primary (sequence [
         field "expression" "expression", field "subscript" "bracketed_argument_list"])),
   node "interpolated_string_expression" (
     oneOf [
       sequence [
         named "interpolation_start" "interpolation_regular_start",
         spelled "\"" "interpolation_start_quote", many "_interpolated_string_content",
         spelled "\"" "interpolation_end_quote"],
       sequence [
         named "interpolation_start" "interpolation_verbatim_start",
         spelled "\"" "interpolation_start_quote", many "_interpolated_verbatim_string_content",
         spelled "\"" "interpolation_end_quote"],
       sequence [
         named "interpolation_start" "interpolation_raw_start",
         named "interpolation_quote" "interpolation_start_quote",
         many "_interpolated_raw_string_content",
         named "interpolation_quote" "interpolation_end_quote"]]),
   part "_interpolated_string_content" (
     oneOf [
       named "string_content" "interpolation_string_content", "escape_sequence", "interpolation"]),
   part "_interpolated_verbatim_string_content" (
     oneOf [named "string_content" "interpolation_string_content", "interpolation"]),
   part "_interpolated_raw_string_content" (
     oneOf [named "string_content" "interpolation_string_content", "interpolation"]),
   node "interpolation" (
     sequence [
       named "interpolation_brace" "interpolation_open_brace", "expression",
       opt "interpolation_alignment_clause", opt "interpolation_format_clause",
       named "interpolation_brace" "interpolation_close_brace"]),
   node "interpolation_alignment_clause" (sequence [literal ",", "expression"]),
   node "interpolation_format_clause" (sequence [literal ":", token interpolationFormat]),
   node "member_access_expression" (
     prec Level.primary (sequence [
         field "expression" (oneOf ["expression", "predefined_type", "_name"]),
         literals [".", "->"], field "name" "_simple_name"])),
   node "member_binding_expression" (sequence [literal ".", field "name" "_simple_name"]),
   node "object_creation_expression" (
     precRight 0 (sequence [
         literal "new", field "type" "type", field "arguments" (opt "argument_list"),
         field "initializer" (opt "initializer_expression")])),
   node "parenthesized_expression" (sequence [literal "(", "non_lvalue_expression", literal ")"]),
   part "_parenthesized_lvalue_expression" (
     sequence [literal "(", "lvalue_expression", literal ")"]),
   node "lambda_expression" (
     prec (-1) (sequence [
         "_lambda_expression_init", literal "=>", field "body" (oneOf ["block", "expression"])])),
   part "_lambda_expression_init" (
     prec (-1) (sequence [
         many "_attribute_list", many (prec (-1) (named "modifier" (literals ["static", "async"]))),
         opt (field "type" "type"), field "parameters" "_lambda_parameters"])),
   part "_lambda_parameters" (
     prec (-1) (oneOf ["parameter_list", named "implicit_parameter" "identifier"])),
   node "array_creation_expression" (
     weighted Level.unary (sequence [
         literal "new", field "type" "array_type", opt "initializer_expression"])),
   node "anonymous_method_expression" (
     sequence [
       many (prec (-1) (named "modifier" (literals ["static", "async"]))), literal "delegate",
       opt (field "parameters" "parameter_list"), "block"]),
   node "anonymous_object_creation_expression" (
     sequence [
       literal "new", openBrace, commaSeparated "_anonymous_object_member_declarator",
       opt (literal ","), closeBrace]),
   part "_anonymous_object_member_declarator" (
     oneOf [
         weighted Level.assignment (sequence [
             "identifier", literal "=", "expression"]), "expression"]),
   node "implicit_array_creation_expression" (
     sequence [
       literal "new", literal "[", many (literal ","), literal "]", "initializer_expression"]),
   node "implicit_object_creation_expression" (
     precRight 0 (sequence [literal "new", "argument_list", opt "initializer_expression"])),
   node "implicit_stackalloc_expression" (
     sequence [literal "stackalloc", literal "[", literal "]", "initializer_expression"]),
   node "initializer_expression" (
     sequence [openBrace, commaSeparated "expression", opt (literal ","), closeBrace]),
   node "declaration_expression" (sequence [field "type" "type", field "name" "identifier"]),
   node "default_expression" (
     precRight 0 (sequence [
         literal "default", opt (sequence [literal "(", field "type" "type", literal ")"])])),
   node "with_expression" (
     precLeft Level.update (sequence ["expression", literal "with", "_with_body"])),
   part "_with_body" (
     sequence [
       openBrace, commaSeparated "with_initializer", opt (literal ","), closeBrace]),
   node "with_initializer" (sequence ["identifier", literal "=", "expression"]),
   node "sizeof_expression" (
     sequence [literal "sizeof", literal "(", field "type" "type", literal ")"]),
   node "typeof_expression" (
     sequence [literal "typeof", literal "(", field "type" "type", literal ")"]),
   node "makeref_expression" (
     sequence [literal "__makeref", literal "(", "expression", literal ")"]),
   node "ref_expression" (sequence [literal "ref", "expression"]),
   node "reftype_expression" (
     sequence [literal "__reftype", literal "(", "expression", literal ")"]),
   node "refvalue_expression" (
     sequence [
       literal "__refvalue", literal "(", field "value" "expression", literal ",",
       field "type" "type", literal ")"]),
   node "stackalloc_expression" (
     precLeft 0 (sequence [
         literal "stackalloc", field "type" "array_type", opt "initializer_expression"])),
   node "range_expression" (
     precRight Level.range (sequence [opt "expression", literal "..", opt "expression"])),
   node "tuple_expression" (
     sequence [literal "(", "argument", .many1 (sequence [literal ",", "argument"]), literal ")"])]

end SourceOutline.CSharp
