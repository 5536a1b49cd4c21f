/-
Members as JSON. What has its default value is left out: an absent signature,
an unknown last line, an empty list of children, an unassigned identity.
-/
import SourceOutline.Json.Reader
import SourceOutline.Member.Basic

set_option autoImplicit false

namespace SourceOutline

/-! ## Writing -/

/-- An array of texts. -/
def Json.ofTexts (texts : List String) : List Json :=
  texts.map Json.str

/-- An ancestry, its empty groups left out. -/
def Ancestry.toJson (path : Ancestry) : Json :=
  .obj (Json.nonempty "namespaces" (Json.ofTexts path.namespaces)
    ++ Json.nonempty "types" (Json.ofTexts path.types))

/-- A parameter list. -/
def Signature.toJson (signature : Signature) : Json :=
  .obj [("parameters", .str signature.parameters), ("shown", .bool signature.shown)]

/-- The word for a boundary on file. -/
def Boundary.key : Boundary → String
  | .start => "start"
  | .stop => "end"

/-- A marker. -/
def Marker.toJson (marker : Marker) : Json :=
  .obj [("boundary", .str marker.boundary.key), ("name", .str marker.name),
    ("depth", .nat marker.depth)]

/-- The fields of an entry, with those of its children in their place. -/
def Entry.fields (entry : Entry) (children : List Json) : List (String × Json) :=
  [("kind", .str entry.kind.key), ("name", .str entry.name)]
    ++ Json.optional "signature" (entry.signature.map Signature.toJson)
    ++ [("start_line", .nat entry.startLine)]
    ++ Json.optional "end_line" (entry.endLine.map Json.nat)
    ++ [("column", .nat entry.column), ("parent_path", entry.parent.toJson),
        ("is_public", .bool entry.isPublic)]
    ++ Json.nonempty "children" children
    ++ Json.optional "region" (entry.region.map Marker.toJson)
    ++ Json.optional "id" (if entry.id.isEmpty then none else some (.str entry.id))
    ++ Json.optional "color_tag" (entry.colorTag.map Json.str)

mutual

/-- A member with all its descendants. -/
def Member.toJson : Member → Json
  | .node entry children => .obj (entry.fields (Forest.toJson children))

/-- The members of a forest. -/
def Forest.toJson : Forest → List Json
  | [] => []
  | member :: rest => member.toJson :: Forest.toJson rest

end

/-! ## Reading -/

/-- The texts of an array, none when the field is absent. -/
def Json.texts? (name : String) (value : Json) : Option (List String) :=
  match value.present? name with
  | none => some []
  | some found => found.asList? >>= fun items => items.mapM Json.asString?

/-- An optional field: absent, or present and well formed. -/
def Json.optional? {α : Type} (name : String) (read : Json → Option α) (value : Json) :
    Option (Option α) :=
  match value.present? name with
  | none => some none
  | some found => (read found).map some

/-- An ancestry from its written form. -/
def Ancestry.ofJson? (value : Json) : Option Ancestry := do
  let value ← value.record? ["namespaces", "types"]
  return { namespaces := ← value.texts? "namespaces", types := ← value.texts? "types" }

/-- A parameter list from its written form. -/
def Signature.ofJson? (value : Json) : Option Signature := do
  let value ← value.record? ["parameters", "shown"]
  return {
    parameters := ← value.get? "parameters" >>= Json.asString?
    shown := ← value.get? "shown" >>= Json.asBool? }

/-- A boundary from its word. -/
def Boundary.ofKey? (key : String) : Option Boundary :=
  if key = "start" then some .start else if key = "end" then some .stop else none

/-- A marker from its written form. -/
def Marker.ofJson? (value : Json) : Option Marker := do
  let value ← value.record? ["boundary", "name", "depth"]
  return {
    boundary := ← value.get? "boundary" >>= Json.asWord? >>= Boundary.ofKey?
    name := ← value.get? "name" >>= Json.asString?
    depth := ← value.get? "depth" >>= Json.asNat? }

/-- The fields of a member in order. -/
def memberFields : List String :=
  ["kind", "name", "signature", "start_line", "end_line", "column", "parent_path", "is_public",
   "children", "region", "id", "color_tag"]

/-- An entry from the fields of its member. -/
def Entry.ofJson? (value : Json) : Option Entry := do
  return {
    kind := ← value.get? "kind" >>= Json.asWord? >>= Kind.ofKey?
    name := ← value.get? "name" >>= Json.asString?
    signature := ← value.optional? "signature" Signature.ofJson?
    startLine := ← value.get? "start_line" >>= Json.asNat?
    endLine := ← value.optional? "end_line" Json.asNat?
    column := ← value.get? "column" >>= Json.asNat?
    parent := (← value.optional? "parent_path" Ancestry.ofJson?).getD {}
    isPublic := ← value.get? "is_public" >>= Json.asBool?
    region := ← value.optional? "region" Marker.ofJson?
    id := (← value.optional? "id" Json.asString?).getD ""
    colorTag := ← value.optional? "color_tag" Json.asString? }

mutual

/-- The number of levels of a value. -/
def Json.height : Json → Nat
  | .arr items => Json.heightItems items + 1
  | .obj fields => Json.heightFields fields + 1
  | _ => 1

/-- The number of levels below an array. -/
def Json.heightItems : List Json → Nat
  | [] => 0
  | item :: items => max item.height (Json.heightItems items)

/-- The number of levels below an object. -/
def Json.heightFields : List (String × Json) → Nat
  | [] => 0
  | (_, value) :: fields => max value.height (Json.heightFields fields)

end

/-- A member from its written form, to a given depth of nesting. -/
def Member.ofJsonWithin : Nat → Json → Option Member
  | 0, _ => none
  | depth + 1, value => do
    let value ← value.record? memberFields
    let entry ← Entry.ofJson? value
    let items ← value.optional? "children" Json.asList?
    let children ← (items.getD []).mapM (Member.ofJsonWithin depth)
    return .node entry children

/-- A member from its written form. Its nesting is no deeper than the value. -/
def Member.ofJson? (value : Json) : Option Member :=
  Member.ofJsonWithin value.height value

/-- A member from a document. -/
def Member.parse? (text : String) : Option Member :=
  Json.document? text >>= Member.ofJson?

/-- A forest from its written form. -/
def Forest.ofJson? (value : Json) : Option Forest :=
  value.asList? >>= fun items => items.mapM Member.ofJson?

end SourceOutline
