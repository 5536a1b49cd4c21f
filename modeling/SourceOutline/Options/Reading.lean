/-
Options from a TOML document, and options as JSON. A key that is missing keeps
its default and a key that is unknown is ignored, but a key with a value of the
wrong type spoils the document. A group of options may be given as a table, or as
an array of its values in order. A date or a time counts as a table too, with keys that
no group has.
-/
import SourceOutline.Json.Basic
import SourceOutline.Options.Basic
import SourceOutline.Toml.Reader

set_option autoImplicit false

namespace SourceOutline

/-! ## From TOML -/

/-- The value under a key, or the default when there is none. The value has to be
readable. -/
def Toml.keyOr {α : Type} (entries : List (String × Toml)) (key : String)
    (read : Toml → Option α) (default : α) : Option α :=
  match entries.lookup key with
  | some value => read value
  | none => some default

/-- The truth value in place `n` of an array, or true when the array is shorter. -/
def Toml.flagAt (items : List Toml) (n : Nat) : Option Bool :=
  match items[n]? with
  | some value => value.asBool?
  | none => some true

/-- The truth value under a key, or true when there is none. -/
def Toml.flag (entries : List (String × Toml)) (key : String) : Option Bool :=
  Toml.keyOr entries key Toml.asBool? true

/-- The visibility of a category. -/
def Visibility.ofToml? : Toml → Option Visibility
  | .table entries => do
    return {
      publicShown := ← Toml.flag entries "public"
      privateShown := ← Toml.flag entries "private" }
  | .array items => do
    return { publicShown := ← Toml.flagAt items 0, privateShown := ← Toml.flagAt items 1 }
  | .moment _ => some {}
  | _ => none

/-- The visibility of containers. -/
def ContainerVisibility.ofToml? : Toml → Option ContainerVisibility
  | .table entries => do
    return {
      classes := ← Toml.flag entries "classes"
      interfaces := ← Toml.flag entries "interfaces"
      structs := ← Toml.flag entries "structs"
      others := ← Toml.flag entries "others" }
  | .array items => do
    return {
      classes := ← Toml.flagAt items 0
      interfaces := ← Toml.flagAt items 1
      structs := ← Toml.flagAt items 2
      others := ← Toml.flagAt items 3 }
  | .moment _ => some {}
  | _ => none

/-- A text under a key, if the key is there. -/
def Toml.textOf (entries : List (String × Toml)) (key : String) : Option (Option String) :=
  Toml.keyOr entries key (fun value => value.asString?.map some) none

/-- The options a document holds. -/
def Options.ofToml? (entries : List (String × Toml)) : Option Options := do
  return {
    showSignatures := ← Toml.flag entries "show_method_signatures"
    methods := ← Toml.keyOr entries "methods" Visibility.ofToml? {}
    properties := ← Toml.keyOr entries "properties" Visibility.ofToml? {}
    fields := ← Toml.keyOr entries "fields" Visibility.ofToml? {}
    containers := ← Toml.keyOr entries "containers" ContainerVisibility.ofToml? {}
    sortMembers := ← Toml.flag entries "sort_members"
    classNameFilter := ← Toml.textOf entries "class_name_filter"
    memberNameFilter := ← Toml.textOf entries "member_name_filter" }

/-- The options of the document in a text. There are none when the text is no
document or holds a value of the wrong type. -/
def Options.parse? (text : String) : Option Options :=
  Toml.parse? text >>= Options.ofToml?

/-! ## As JSON -/

/-- A visibility as JSON. -/
def Visibility.toJson (visibility : Visibility) : Json :=
  .obj [("public", .bool visibility.publicShown), ("private", .bool visibility.privateShown)]

/-- The visibility of containers as JSON. -/
def ContainerVisibility.toJson (containers : ContainerVisibility) : Json :=
  .obj [("classes", .bool containers.classes), ("interfaces", .bool containers.interfaces),
    ("structs", .bool containers.structs), ("others", .bool containers.others)]

/-- Options as JSON. Filters that are not set are left out. -/
def Options.toJson (options : Options) : Json :=
  .obj ([("show_method_signatures", .bool options.showSignatures),
      ("methods", options.methods.toJson), ("properties", options.properties.toJson),
      ("fields", options.fields.toJson), ("containers", options.containers.toJson),
      ("sort_members", .bool options.sortMembers)]
    ++ Json.optional "class_name_filter" (options.classNameFilter.map Json.str)
    ++ Json.optional "member_name_filter" (options.memberNameFilter.map Json.str))

/-- A truth value under a key, or true when there is none. -/
def Json.flag (name : String) (value : Json) : Bool :=
  ((value.present? name) >>= Json.asBool?).getD true

/-- The record that a value stands for, or one without fields. -/
def Json.recordOr (names : List String) (value : Json) : Json :=
  (value.record? names).getD (.obj [])

/-- A visibility from JSON. -/
def Visibility.ofJson (value : Json) : Visibility :=
  let value := value.recordOr ["public", "private"]
  { publicShown := value.flag "public", privateShown := value.flag "private" }

/-- The visibility of containers from JSON. -/
def ContainerVisibility.ofJson (value : Json) : ContainerVisibility :=
  let value := value.recordOr ["classes", "interfaces", "structs", "others"]
  { classes := value.flag "classes"
    interfaces := value.flag "interfaces"
    structs := value.flag "structs"
    others := value.flag "others" }

/-- The options from their fields. What is missing keeps its default. -/
def Options.ofFields (value : Json) : Options where
  showSignatures := value.flag "show_method_signatures"
  methods := ((value.present? "methods").map Visibility.ofJson).getD {}
  properties := ((value.present? "properties").map Visibility.ofJson).getD {}
  fields := ((value.present? "fields").map Visibility.ofJson).getD {}
  containers := ((value.present? "containers").map ContainerVisibility.ofJson).getD {}
  sortMembers := value.flag "sort_members"
  classNameFilter := value.present? "class_name_filter" >>= Json.asString?
  memberNameFilter := value.present? "member_name_filter" >>= Json.asString?

/-- Options from JSON. -/
def Options.ofJson (value : Json) : Options :=
  .ofFields (value.recordOr
    ["show_method_signatures", "methods", "properties", "fields", "containers", "sort_members",
     "class_name_filter", "member_name_filter"])

end SourceOutline
