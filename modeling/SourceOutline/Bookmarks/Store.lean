/-
A place where bookmarks are kept while the program runs. A store is either lost
at the end or backed by a file, which is written after every change that matters.
A change that cannot be saved is still made in memory; the caller learns that the
file does not have it.
-/
import SourceOutline.Bookmarks.Json
import SourceOutline.FileTree

set_option autoImplicit false

namespace SourceOutline

/-- Why a store failed. -/
inductive StoreError where
  /-- A file operation failed. -/
  | file (error : FileError)
  /-- The file does not hold bookmarks. -/
  | format
deriving DecidableEq, Repr

/-- Bookmarks, and the file that backs them. -/
structure Store where
  bookmarks : Bookmarks := .empty
  path : Option String := none

namespace Store

/-- A store without a file. -/
def inMemory : Store := {}

/-- Opens the store that a file backs. A file that is not there holds nothing. -/
def load (disk : FileTree) (path : String) : Except StoreError Store :=
  if disk.exists? path then
    match disk.read path with
    | .error error => .error (.file error)
    | .ok text =>
      match Bookmarks.parse? text with
      | some bookmarks => .ok { bookmarks := bookmarks, path := some path }
      | none => .error .format
  else .ok { path := some path }

/-- Writes the bookmarks to the file, if there is one. -/
def save (store : Store) (disk : FileTree) : Except StoreError FileTree :=
  match store.path with
  | none => .ok disk
  | some path =>
    match disk.save path (.text store.bookmarks.render) with
    | .ok disk => .ok disk
    | .error error => .error (.file error)

/-- Makes a change, and saves it when there is something to save. -/
def apply (store : Store) (disk : FileTree) (change : Change) :
    Except StoreError Unit × Store × FileTree :=
  let store := { store with bookmarks := change.bookmarks }
  if change.mustSave then
    match store.save disk with
    | .ok disk => (.ok (), store, disk)
    | .error error => (.error error, store, disk)
  else (.ok (), store, disk)

/-- Sets the color of a member. -/
def set (store : Store) (disk : FileTree) (file id color : String) :
    Except StoreError Unit × Store × FileTree :=
  store.apply disk (store.bookmarks.set file id color)

/-- Drops the bookmarks of a file that are not among the given identities, and
counts them. -/
def purge (store : Store) (disk : FileTree) (file : String) (valid : List String) :
    Except StoreError Nat × Store × FileTree :=
  let removed := store.bookmarks.staleCount file valid
  let (result, store, disk) := store.apply disk (store.bookmarks.purge file valid)
  (result.map fun _ => removed, store, disk)

/-- Drops all bookmarks of a file. -/
def clear (store : Store) (disk : FileTree) (file : String) :
    Except StoreError Unit × Store × FileTree :=
  store.apply disk (store.bookmarks.clear file)

end Store

end SourceOutline
