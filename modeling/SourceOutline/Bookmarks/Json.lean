/-
Bookmarks on file: a JSON object with the single field `files`, which maps each
file to its colors by identity. On reading, the object may be given as an array
of its one field, other fields are ignored, and the last of equal keys counts.
-/
import SourceOutline.Bookmarks.Basic
import SourceOutline.Json.Printer
import SourceOutline.Json.Reader
import SourceOutline.Text.Basic

set_option autoImplicit false

namespace SourceOutline

/-! ## Writing -/

/-- The bookmarks of a file as JSON. -/
def FileBookmarks.toJson (entries : FileBookmarks) : Json :=
  .obj (entries.entries.map fun (id, color) => (id, .str color))

/-- The content of a bookmark file. -/
def Bookmarks.toJson (bookmarks : Bookmarks) : Json :=
  .obj [("files", .obj (bookmarks.entries.map fun (file, entries) =>
    (file, FileBookmarks.toJson entries)))]

/-- The text of a bookmark file. -/
def Bookmarks.render (bookmarks : Bookmarks) : String :=
  bookmarks.toJson.pretty

/-! ## Reading -/

/-- A dictionary whose values are all readable. -/
def Dictionary.ofJson? {α : Type} (read : Json → Option α) (value : Json) :
    Option (Dictionary α) := do
  let fields ← value.asFields?
  let entries ← fields.mapM fun (key, field) => (read field).map fun value => (key, value)
  return .ofList entries

/-- The bookmarks of all files, from the field `files`. -/
def Bookmarks.ofFiles? (value : Json) : Option Bookmarks :=
  Dictionary.ofJson? (Dictionary.ofJson? Json.asString?) value

/-- The bookmarks a file holds. -/
def Bookmarks.ofJson? : Json → Option Bookmarks
  | .obj fields =>
    match fields.filter fun field => field.1 == "files" with
    | [] => some .empty
    | [(_, value)] => Bookmarks.ofFiles? value
    | _ => none
  | .arr [] => some .empty
  | .arr [value] => Bookmarks.ofFiles? value
  | _ => none

/-- The bookmarks in the text of a file. A text of nothing but blanks holds none. -/
def Bookmarks.parse? (text : String) : Option Bookmarks :=
  if Text.isBlankLine text.toList then some .empty
  else Json.parse? text >>= Bookmarks.ofJson?

end SourceOutline
