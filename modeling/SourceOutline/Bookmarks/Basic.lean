/-
Bookmarks. A bookmark ties a color to the identity of a member of a file. The
bookmarks of all files form one dictionary, and every change to it is a function
that also tells whether there is anything new to save.
-/
import SourceOutline.Dictionary

set_option autoImplicit false

namespace SourceOutline

/-- The colors of one file, by identity. -/
abbrev FileBookmarks := Dictionary String

/-- The bookmarks of all files. -/
abbrev Bookmarks := Dictionary FileBookmarks

/-- Bookmarks after a change, and whether they have to be saved. -/
structure Change where
  bookmarks : Bookmarks
  mustSave : Bool

namespace Bookmarks

/-- The bookmarks of a file. -/
def ofFile (bookmarks : Bookmarks) (file : String) : FileBookmarks :=
  (bookmarks.find? file).getD .empty

/-- The color of a member. -/
def color? (bookmarks : Bookmarks) (file id : String) : Option String :=
  (bookmarks.ofFile file).find? id

/-- Sets the color of a member. There is nothing to save if it had that color. -/
def set (bookmarks : Bookmarks) (file id color : String) : Change where
  bookmarks := bookmarks.insert file ((bookmarks.ofFile file).insert id color)
  mustSave := bookmarks.color? file id != some color

/-- How many bookmarks of a file are not among the given identities. -/
def staleCount (bookmarks : Bookmarks) (file : String) (valid : List String) : Nat :=
  let entries := bookmarks.ofFile file
  entries.size - (entries.filterKeys valid.contains).size

/-- Drops the bookmarks of a file that are not among the given identities. -/
def purge (bookmarks : Bookmarks) (file : String) (valid : List String) : Change :=
  match bookmarks.find? file with
  | none => ⟨bookmarks, false⟩
  | some entries =>
    let kept := entries.filterKeys valid.contains
    { bookmarks := if kept.isEmpty then bookmarks.erase file else bookmarks.insert file kept
      mustSave := 0 < bookmarks.staleCount file valid }

/-- Drops all bookmarks of a file. -/
def clear (bookmarks : Bookmarks) (file : String) : Change where
  bookmarks := bookmarks.erase file
  mustSave := (bookmarks.find? file).isSome

end Bookmarks

end SourceOutline
