/-
Rules of C# for names and types.
-/
import SourceOutline.CSharp.Rules.Tokens

set_option autoImplicit false

namespace SourceOutline.CSharp

open Grammar

/-- Rules of names and types. -/
def typeRules : List Definition :=
  [part "_name" (oneOf ["alias_qualified_name", "qualified_name", "_simple_name"]),
   node "alias_qualified_name" (
     sequence [field "alias" "identifier", literal "::", field "name" "_simple_name"]),
   part "_simple_name" (oneOf ["identifier", "generic_name"]),
   node "generic_name" (sequence ["identifier", "type_argument_list"]),
   node "type_argument_list" (
     sequence [literal "<", oneOf [many (literal ","), commaSeparated1 "type"], literal ">"]),
   node "qualified_name" (
     prec Level.primary (sequence [
         field "qualifier" "_name", literal ".", field "name" "_simple_name"])),
   part "type" (
     oneOf [
       "implicit_type", "array_type", "_name", "nullable_type", "pointer_type",
       "function_pointer_type", "predefined_type", "tuple_type", "ref_type", "scoped_type"]),
   node "implicit_type" (weighted 1 (literal "var")),
   node "array_type" (
     sequence [field "type" "_array_base_type", field "rank" "array_rank_specifier"]),
   part "_array_base_type" (
     oneOf [
       "array_type", "_name", "nullable_type", "pointer_type", "function_pointer_type",
       "predefined_type", "tuple_type"]),
   node "array_rank_specifier" (
     sequence [
       literal "[",
       opt (sequence [opt "expression", many (sequence [literal ",", opt "expression"])]),
       literal "]"]),
   node "nullable_type" (sequence [field "type" "_nullable_base_type", literal "?"]),
   part "_nullable_base_type" (oneOf ["array_type", "_name", "predefined_type", "tuple_type"]),
   node "pointer_type" (sequence [field "type" "_pointer_base_type", literal "*"]),
   part "_pointer_base_type" (
     oneOf [
       "_name", "nullable_type", "pointer_type", "function_pointer_type", "predefined_type",
       "tuple_type"]),
   node "function_pointer_type" (
     sequence [
       literal "delegate", literal "*", opt "calling_convention", literal "<",
       many (sequence ["function_pointer_parameter", literal ","]), field "returns" "type",
       literal ">"]),
   node "calling_convention" (
     oneOf [
       literal "managed",
       sequence [
         literal "unmanaged",
         opt (sequence [
             literal "[",
             commaSeparated1 (oneOf [
                 literal "Cdecl", literal "Stdcall", literal "Thiscall", literal "Fastcall",
                 "identifier"]), literal "]"])]]),
   node "function_pointer_parameter" (
     sequence [opt (literals ["ref", "out", "in"]), field "type" "_ref_base_type"]),
   node "predefined_type" (token predefinedType),
   node "ref_type" (sequence [literal "ref", opt (literal "readonly"), field "type" "type"]),
   part "_ref_base_type" (
     oneOf [
       "implicit_type", "_name", "nullable_type", "array_type", "pointer_type",
       "function_pointer_type", "predefined_type", "tuple_type"]),
   node "scoped_type" (sequence [literal "scoped", field "type" "_scoped_base_type"]),
   part "_scoped_base_type" (oneOf ["_name", "ref_type"]),
   node "tuple_type" (
     sequence [
       literal "(", "tuple_element", literal ",", commaSeparated1 "tuple_element", literal ")"]),
   node "tuple_element" (sequence [field "type" "type", field "name" (opt "identifier")])]

end SourceOutline.CSharp
