/-
Rules of C# for what a text declares: directives and attributes, namespaces, types
and their members, parameters and arguments.
-/
import SourceOutline.CSharp.Rules.Tokens

set_option autoImplicit false

namespace SourceOutline.CSharp

open Grammar

/-- Rules of declarations, the whole text first. -/
def declarationRules : List Definition :=
  [node "compilation_unit" (sequence [opt "shebang_directive", many "_top_level_item"]),
   part "_top_level_item" (prec 2 (oneOf ["_top_level_item_no_statement", "global_statement"])),
   part "_top_level_item_no_statement" (
     oneOf [
       "extern_alias_directive", "using_directive", "global_attribute",
       named "preproc_if" "preproc_if_in_top_level", "_namespace_member_declaration",
       "file_scoped_namespace_declaration"]),
   node "global_statement" (prec 1 "statement"),
   node "extern_alias_directive" (
     sequence [literal "extern", literal "alias", field "name" "identifier", literal ";"]),
   node "using_directive" (
     sequence [
       opt (literal "global"), literal "using",
       oneOf [
         sequence [opt (literal "unsafe"), field "name" "identifier", literal "=", "type"],
         sequence [many (literals ["static", "unsafe"]), "_name"]],
       literal ";"]),
   node "global_attribute" (
     sequence [
       literal "[", literals ["assembly", "module"], literal ":", commaSeparated "attribute",
       opt (literal ","), literal "]"]),
   node "attribute" (sequence [field "name" "_name", opt "attribute_argument_list"]),
   node "attribute_argument_list" (
     sequence [literal "(", commaSeparated "attribute_argument", literal ")"]),
   node "attribute_argument" (
     prec (-1) (sequence [opt (sequence ["identifier", literals [":", "="]]), "expression"])),
   node "attribute_list" (
     sequence [
       literal "[", opt "attribute_target_specifier", commaSeparated1 "attribute",
       opt (literal ","), literal "]"]),
   part "_attribute_list" (oneOf ["attribute_list", "preproc_if_in_attribute_list"]),
   node "attribute_target_specifier" (
     sequence [
       literals ["field", "event", "method", "param", "property", "return", "type", "typevar"],
       literal ":"]),
   part "_namespace_member_declaration" (oneOf ["namespace_declaration", "type_declaration"]),
   node "namespace_declaration" (
     sequence [
       literal "namespace", field "name" "_name", field "body" "declaration_list",
       "_optional_semi"]),
   node "file_scoped_namespace_declaration" (
     sequence [literal "namespace", field "name" "_name", literal ";"]),
   part "type_declaration" (
     oneOf [
       "class_declaration", "struct_declaration", "enum_declaration", "interface_declaration",
       "delegate_declaration", "record_declaration"]),
   node "class_declaration" (
     sequence [
       "_class_declaration_initializer",
       oneOf [sequence [field "body" "declaration_list", "_optional_semi"], literal ";"]]),
   part "_class_declaration_initializer" (
     sequence [
       many "_attribute_list", many "modifier", literal "class", field "name" "identifier",
       many (oneOf ["type_parameter_list", "parameter_list", "base_list"]),
       many "type_parameter_constraints_clause"]),
   node "struct_declaration" (
     sequence [
       "_struct_declaration_initializer",
       oneOf [sequence [field "body" "declaration_list", "_optional_semi"], literal ";"]]),
   part "_struct_declaration_initializer" (
     sequence [
       many "_attribute_list", many "modifier", opt (literal "ref"), literal "struct",
       field "name" "identifier",
       many (oneOf ["type_parameter_list", "parameter_list", "base_list"]),
       many "type_parameter_constraints_clause"]),
   node "enum_declaration" (
     sequence [
       "_enum_declaration_initializer",
       oneOf [
         sequence [field "body" "enum_member_declaration_list", "_optional_semi"], literal ";"]]),
   part "_enum_declaration_initializer" (
     sequence [
       many "_attribute_list", many "modifier", literal "enum", field "name" "identifier",
       opt "base_list"]),
   node "enum_member_declaration_list" (
     sequence [
       openBrace,
       commaSeparated (oneOf [
           "enum_member_declaration", named "preproc_if" "preproc_if_in_enum_member_declaration"]),
       opt (literal ","), closeBrace]),
   node "enum_member_declaration" (
     sequence [
       many "_attribute_list", field "name" "identifier",
       opt (sequence [literal "=", field "value" "expression"])]),
   node "interface_declaration" (
     sequence [
       "_interface_declaration_initializer",
       oneOf [sequence [field "body" "declaration_list", "_optional_semi"], literal ";"]]),
   part "_interface_declaration_initializer" (
     sequence [
       many "_attribute_list", many "modifier", literal "interface", field "name" "identifier",
       field "type_parameters" (opt "type_parameter_list"), opt "base_list",
       many "type_parameter_constraints_clause"]),
   node "delegate_declaration" (sequence ["_delegate_declaration_initializer", literal ";"]),
   part "_delegate_declaration_initializer" (
     sequence [
       many "_attribute_list", many "modifier", literal "delegate", field "type" "type",
       field "name" "identifier", field "type_parameters" (opt "type_parameter_list"),
       field "parameters" "parameter_list", many "type_parameter_constraints_clause"]),
   node "record_declaration" (
     sequence [
       "_record_declaration_initializer",
       oneOf [sequence [field "body" "declaration_list", "_optional_semi"], literal ";"]]),
   part "_record_declaration_initializer" (
     sequence [
       many "_attribute_list", many "modifier", literal "record",
       opt (literals ["class", "struct"]), field "name" "identifier",
       many (oneOf ["type_parameter_list", "parameter_list", named "base_list" "record_base"]),
       many "type_parameter_constraints_clause"]),
   node "record_base" (
     oneOf [
       sequence [literal ":", commaSeparated1 "_name"],
       sequence [
         literal ":", "primary_constructor_base_type",
         opt (sequence [literal ",", commaSeparated1 "_name"])]]),
   node "primary_constructor_base_type" (sequence [field "type" "_name", "argument_list"]),
   node "modifier" (
     precRight 0 (literals [
         "abstract", "async", "const", "extern", "file", "fixed", "internal", "new", "override",
         "partial", "private", "protected", "public", "readonly", "required", "sealed", "static",
         "unsafe", "virtual", "volatile"])),
   node "type_parameter_list" (
     sequence [literal "<", commaSeparated1 "type_parameter", literal ">"]),
   node "type_parameter" (
     sequence [many "_attribute_list", opt (literals ["in", "out"]), field "name" "identifier"]),
   node "base_list" (
     sequence [literal ":", commaSeparated1 (sequence ["type", opt "argument_list"])]),
   node "type_parameter_constraints_clause" (
     sequence [
       literal "where", "identifier", literal ":", commaSeparated1 "type_parameter_constraint"]),
   node "type_parameter_constraint" (
     oneOf [
       sequence [literal "class", opt (literal "?")], literal "struct", literal "notnull",
       literal "unmanaged", "constructor_constraint", field "type" "type"]),
   node "constructor_constraint" (sequence [literal "new", literal "(", literal ")"]),
   node "operator_declaration" (
     sequence [
       many "_attribute_list", many "modifier", field "type" "type",
       opt "explicit_interface_specifier", literal "operator", opt (literal "checked"),
       field "operator" (literals [
           "!", "~", "++", "--", "true", "false", "+", "-", "*", "/", "%", "^", "|", "&", "<<",
           ">>", ">>>", "==", "!=", ">", "<", ">=", "<="]), field "parameters" "parameter_list",
       "_function_body"]),
   node "conversion_operator_declaration" (
     sequence [
       many "_attribute_list", many "modifier", literals ["implicit", "explicit"],
       many (oneOf ["explicit_interface_specifier", literal "operator", literal "checked"]),
       field "type" "type", field "parameters" "parameter_list", "_function_body"]),
   node "declaration_list" (sequence [openBrace, many "declaration", closeBrace]),
   part "declaration" (
     oneOf [
       "class_declaration", "struct_declaration", "enum_declaration", "delegate_declaration",
       "field_declaration", "method_declaration", "event_declaration", "event_field_declaration",
       "record_declaration", "constructor_declaration", "destructor_declaration",
       "indexer_declaration", "interface_declaration", "namespace_declaration",
       "operator_declaration", "conversion_operator_declaration", "property_declaration",
       "using_directive", "preproc_if"]),
   node "field_declaration" (
     sequence [many "_attribute_list", many "modifier", "variable_declaration", literal ";"]),
   node "constructor_declaration" (
     sequence ["_constructor_declaration_initializer", "_function_body"]),
   part "_constructor_declaration_initializer" (
     sequence [
       many "_attribute_list", many "modifier", field "name" "identifier",
       field "parameters" "parameter_list", opt "constructor_initializer"]),
   node "destructor_declaration" (
     sequence [
       many "_attribute_list", opt (literal "extern"), literal "~", field "name" "identifier",
       field "parameters" "parameter_list", "_function_body"]),
   node "method_declaration" (
     sequence [
       many "_attribute_list", many "modifier", field "returns" "type",
       opt "explicit_interface_specifier", field "name" "identifier",
       field "type_parameters" (opt "type_parameter_list"), field "parameters" "parameter_list",
       many "type_parameter_constraints_clause", "_function_body"]),
   node "event_declaration" (
     sequence [
       many "_attribute_list", many "modifier", literal "event", field "type" "type",
       opt "explicit_interface_specifier", field "name" "identifier",
       oneOf [field "accessors" "accessor_list", literal ";"]]),
   node "event_field_declaration" (
     weighted 1 (sequence [
         many "_attribute_list", many "modifier", literal "event", "variable_declaration",
         literal ";"])),
   node "accessor_list" (sequence [openBrace, many "accessor_declaration", closeBrace]),
   node "accessor_declaration" (
     sequence [
       many "_attribute_list", many "modifier",
       field "name" (oneOf [
           literal "get", literal "set", literal "add", literal "remove", literal "init",
           "identifier"]), "_function_body"]),
   node "indexer_declaration" (
     sequence [
       many "_attribute_list", many "modifier", field "type" "type",
       opt "explicit_interface_specifier", literal "this",
       field "parameters" "bracketed_parameter_list",
       oneOf [
         field "accessors" "accessor_list",
         sequence [field "value" "arrow_expression_clause", literal ";"]]]),
   node "bracketed_parameter_list" (
     sequence [literal "[", commaSeparated (oneOf ["parameter", "_parameter_array"]), literal "]"]),
   node "property_declaration" (
     sequence [
       many "_attribute_list", many "modifier", field "type" "type",
       opt "explicit_interface_specifier", field "name" "identifier",
       oneOf [
         sequence [
           field "accessors" "accessor_list",
           opt (sequence [literal "=", field "value" "expression", literal ";"])],
         sequence [field "value" "arrow_expression_clause", literal ";"]]]),
   node "explicit_interface_specifier" (prec Level.primary (sequence ["_name", literal "."])),
   node "parameter_list" (
     sequence [literal "(", commaSeparated (oneOf ["parameter", "_parameter_array"]), literal ")"]),
   part "_parameter_type_with_modifiers" (
     sequence [
       many (precLeft 0 (named "modifier" (literals [
           "this", "scoped", "ref", "out", "in", "readonly"]))),
       field "type" "type"]),
   node "parameter" (
     sequence [
       many "_attribute_list", opt "_parameter_type_with_modifiers", field "name" "identifier",
       opt (sequence [literal "=", "expression"])]),
   part "_parameter_array" (
     sequence [
       many "_attribute_list", literal "params", field "type" "type", field "name" "identifier"]),
   node "constructor_initializer" (
     sequence [literal ":", literals ["base", "this"], "argument_list"]),
   node "argument_list" (sequence [literal "(", commaSeparated "argument", literal ")"]),
   node "tuple_pattern" (
     sequence [
       literal "(", commaSeparated1 (oneOf [field "name" "identifier", "discard", "tuple_pattern"]),
       literal ")"]),
   node "argument" (
     prec 1 (sequence [
         opt (sequence [field "name" "identifier", literal ":"]),
         opt (literals ["ref", "out", "in"]), oneOf ["expression", "declaration_expression"]])),
   node "block" (sequence [openBrace, many "statement", closeBrace]),
   node "arrow_expression_clause" (sequence [literal "=>", "expression"]),
   part "_function_body" (
     oneOf [
       field "body" "block", sequence [field "body" "arrow_expression_clause", literal ";"],
       literal ";"]),
   node "variable_declaration" (
     sequence [field "type" "type", commaSeparated1 "variable_declarator"]),
   node "using_variable_declaration" (
     sequence [
       field "type" "type",
       commaSeparated1 (named "variable_declarator" "using_variable_declarator")]),
   node "variable_declarator" (
     sequence [
       oneOf [field "name" "identifier", "tuple_pattern"], opt "bracketed_argument_list",
       opt (sequence [literal "=", "expression"])]),
   node "using_variable_declarator" (
     sequence [field "name" "identifier", opt (sequence [literal "=", "expression"])]),
   node "bracketed_argument_list" (
     sequence [literal "[", commaSeparated1 "argument", opt (literal ","), literal "]"])]

end SourceOutline.CSharp
