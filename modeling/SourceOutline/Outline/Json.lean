/-
Outlines as JSON: the form in which they are printed, and the way back.
-/
import SourceOutline.Member.Json
import SourceOutline.Outline.Basic

set_option autoImplicit false

namespace SourceOutline

/-! ## Writing -/

/-- An item. The rendered ancestry is left out when it is empty. -/
def Item.toJson (item : Item) : Json :=
  .obj ([("id", .str item.id), ("kind", .str item.kind.key), ("title", .str item.title),
      ("name", .str item.name)]
    ++ Json.optional "parent_path"
        (if item.parentPath.isEmpty then none else some (.str item.parentPath))
    ++ [("is_public", .bool item.isPublic), ("start_line", .nat item.startLine)]
    ++ Json.optional "end_line" (item.endLine.map Json.nat)
    ++ [("column", .nat item.column), ("depth", .nat item.depth)]
    ++ Json.optional "color_tag" (item.colorTag.map Json.str)
    ++ Json.optional "region" (item.region.map Marker.toJson))

/-- A diagnostic. -/
def Diagnostic.toJson (diagnostic : Diagnostic) : Json :=
  .obj [("line", .nat diagnostic.line), ("column", .nat diagnostic.column),
    ("message", .str diagnostic.message), ("error_type", .str diagnostic.category)]

/-- The metadata. -/
def Metadata.toJson (metadata : Metadata) : Json :=
  .obj [("duration_ms", .nat metadata.durationMs), ("timestamp", .str metadata.timestamp),
    ("tool_version", .str metadata.toolVersion)]

/-- The fields of an outline. -/
def Outline.fields (outline : Outline) : List (String × Json) :=
  Json.optional "path" (outline.path.map Json.str)
    ++ [("language", .str outline.language.key), ("total_lines", .nat outline.totalLines),
        ("items", .arr (outline.items.map Item.toJson))]
    ++ Json.nonempty "errors" (outline.errors.map Diagnostic.toJson)
    ++ [("attempts", .nat outline.attempts), ("metadata", outline.metadata.toJson)]

/-- An outline. -/
def Outline.toJson (outline : Outline) : Json :=
  .obj outline.fields

/-- An outcome, tagged with its status. -/
def Outcome.toJson : Outcome → Json
  | .ready outline => .obj (("status", .str "ready") :: outline.fields)
  | .unsupported extension =>
    .obj [("status", .str "unsupported"), ("extension", .str extension)]
  | .failed message attempts =>
    .obj [("status", .str "failed"), ("message", .str message), ("attempts", .nat attempts)]

/-- A namespace span. -/
def NamespaceSpan.toJson (span : NamespaceSpan) : Json :=
  .obj [("namespaces", .arr (Json.ofTexts span.namespaces)), ("start_line", .nat span.startLine),
    ("end_line", .nat span.endLine)]

/-! ## Reading -/

/-- The fields of an item in order. -/
def itemFields : List String :=
  ["id", "kind", "title", "name", "parent_path", "is_public", "start_line", "end_line", "column",
   "depth", "color_tag", "region"]

/-- An item from its written form. -/
def Item.ofJson? (value : Json) : Option Item := do
  let value ← value.record? itemFields
  return {
    id := ← value.get? "id" >>= Json.asString?
    kind := ← value.get? "kind" >>= Json.asWord? >>= Kind.ofKey?
    title := ← value.get? "title" >>= Json.asString?
    name := ← value.get? "name" >>= Json.asString?
    parentPath := (← value.optional? "parent_path" Json.asString?).getD ""
    isPublic := ← value.get? "is_public" >>= Json.asBool?
    startLine := ← value.get? "start_line" >>= Json.asNat?
    endLine := ← value.optional? "end_line" Json.asNat?
    column := ← value.get? "column" >>= Json.asNat?
    depth := ← value.get? "depth" >>= Json.asNat?
    colorTag := ← value.optional? "color_tag" Json.asString?
    region := ← value.optional? "region" Marker.ofJson? }

/-- A diagnostic from its written form. -/
def Diagnostic.ofJson? (value : Json) : Option Diagnostic := do
  let value ← value.record? ["line", "column", "message", "error_type"]
  return {
    line := ← value.get? "line" >>= Json.asNat?
    column := ← value.get? "column" >>= Json.asNat?
    message := ← value.get? "message" >>= Json.asString?
    category := ← value.get? "error_type" >>= Json.asString? }

/-- The metadata from their written form. -/
def Metadata.ofJson? (value : Json) : Option Metadata := do
  let value ← value.record? ["duration_ms", "timestamp", "tool_version"]
  return {
    durationMs := ← value.get? "duration_ms" >>= Json.asNat?
    timestamp := ← value.get? "timestamp" >>= Json.asString?
    toolVersion := ← value.get? "tool_version" >>= Json.asString? }

/-- A list field, empty when it is absent. -/
def Json.list? {α : Type} (name : String) (read : Json → Option α) (value : Json) :
    Option (List α) :=
  match value.present? name with
  | none => some []
  | some found => found.asList? >>= fun items => items.mapM read

/-- An outline from its written form. -/
def Outline.ofJson? (value : Json) : Option Outline := do
  let value ← value.record?
    ["path", "language", "total_lines", "items", "errors", "attempts", "metadata"]
  return {
    path := ← value.optional? "path" Json.asString?
    language := ← value.get? "language" >>= Json.asWord? >>= Language.ofKey?
    totalLines := ← value.get? "total_lines" >>= Json.asNat?
    items := ← value.get? "items" >>= Json.asList? >>= fun items => items.mapM Item.ofJson?
    errors := ← value.list? "errors" Diagnostic.ofJson?
    attempts := ← value.get? "attempts" >>= Json.asNat?
    metadata := ← value.get? "metadata" >>= Metadata.ofJson? }

/-- An outline from a document. -/
def Outline.parse? (text : String) : Option Outline :=
  Json.document? text >>= Outline.ofJson?

/-- A namespace span from its written form. -/
def NamespaceSpan.ofJson? (value : Json) : Option NamespaceSpan := do
  return {
    namespaces := ← value.texts? "namespaces"
    startLine := ← value.get? "start_line" >>= Json.asNat?
    endLine := ← value.get? "end_line" >>= Json.asNat? }

end SourceOutline
