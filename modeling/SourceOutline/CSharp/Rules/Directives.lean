/-
Rules of C# for directives: lines that start with a number sign. Conditional sections
are part of the text around them; the other directives may stand anywhere.
-/
import SourceOutline.CSharp.Rules.Tokens

set_option autoImplicit false

namespace SourceOutline.CSharp

open Grammar

/-- A conditional section with its branches. The content of a branch may be repeated or
not, and the suffix tells apart the places where sections stand, which differ in what
they hold. -/
def conditionalRules (suffix : String) (content : Expression) (level : Int) : List Definition :=
  let branch (name : String) : Expression :=
    if suffix.isEmpty then ("preproc_" ++ name : String)
    else named ("preproc_" ++ name) ("preproc_" ++ name ++ suffix : String)
  let other : Expression := field "alternative" (opt (oneOf [branch "else", branch "elif"]))
  let condition : Expression := field "condition" "_preproc_expression"
  [node ("preproc_if" ++ suffix) (prec level (
     sequence [directive "if", condition, lineEnd, content, other, directive "endif"])),
   node ("preproc_else" ++ suffix) (prec level (sequence [directive "else", content])),
   node ("preproc_elif" ++ suffix) (prec level (
     sequence [directive "elif", condition, lineEnd, content, other]))]

/-- An operator between two conditions that leans to the left. -/
def conditionLeft (level : Int) (operator : String) : Expression :=
  precLeft level (
    sequence [
      field "left" "_preproc_expression", field "operator" (literal operator),
      field "right" "_preproc_expression"])

/-- Rules of conditional sections, wherever they may stand. -/
def conditionalSectionRules : List Definition :=
  conditionalRules "" (many "declaration") 0
    ++ conditionalRules "_in_top_level"
      (many (oneOf ["_top_level_item_no_statement", "statement"])) 0
    ++ conditionalRules "_in_expression" (opt "expression") (-2)
    ++ conditionalRules "_in_enum_member_declaration" (opt "enum_member_declaration") 0
    ++ conditionalRules "_in_attribute_list" (opt "attribute_list") (-1)

/-- Rules of the other directives and of comments. -/
def directiveRules : List Definition :=
  [node "preproc_arg" (rankedToken (-1) directiveArgument),
   part "_preproc_expression" (
     oneOf [
       "identifier", "boolean_literal", "integer_literal", "character_literal",
       named "unary_expression" "preproc_unary_expression",
       named "binary_expression" "preproc_binary_expression",
       named "parenthesized_expression" "preproc_parenthesized_expression"]),
   node "preproc_parenthesized_expression" (
     sequence [literal "(", "_preproc_expression", literal ")"]),
   node "preproc_unary_expression" (
     precLeft Level.unary (sequence [
         field "operator" (literal "!"), field "argument" "_preproc_expression"])),
   node "preproc_binary_expression" (
     oneOf [
       conditionLeft Level.or "||", conditionLeft Level.and "&&",
       conditionLeft Level.equality "==", conditionLeft Level.equality "!="]),
   node "preproc_region" (
     sequence [directive "region", opt (field "content" "preproc_arg"), lineEnd]),
   node "preproc_endregion" (
     sequence [directive "endregion", opt (field "content" "preproc_arg"), lineEnd]),
   node "preproc_line" (
     sequence [
       directive "line",
       oneOf [
         literal "default", literal "hidden", sequence ["integer_literal", opt "string_literal"],
         sequence [
           literal "(", "integer_literal", literal ",", "integer_literal", literal ")", literal "-",
           literal "(", "integer_literal", literal ",", "integer_literal", literal ")",
           opt "integer_literal", "string_literal"]], lineEnd]),
   node "preproc_pragma" (
     sequence [
       directive "pragma",
       oneOf [
         sequence [
           literal "warning", literals ["disable", "restore"],
           commaSeparated (oneOf ["identifier", "integer_literal"])],
         sequence [literal "checksum", "string_literal", "string_literal", "string_literal"]],
       lineEnd]),
   node "preproc_nullable" (
     sequence [
       directive "nullable", literals ["enable", "disable", "restore"],
       opt (literals ["annotations", "warnings"]), lineEnd]),
   node "preproc_error" (sequence [directive "error", "preproc_arg", lineEnd]),
   node "preproc_warning" (sequence [directive "warning", "preproc_arg", lineEnd]),
   node "preproc_define" (sequence [directive "define", "preproc_arg", lineEnd]),
   node "preproc_undef" (sequence [directive "undef", "preproc_arg", lineEnd]),
   node "shebang_directive" (token (.seq (.text "#!") (.many (.noneOf "\n")))),
   node "comment" (token comment)]

end SourceOutline.CSharp
