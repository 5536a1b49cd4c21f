/-
Where a source text comes from: a file, which is read anew at every attempt, or a
text that is at hand, with a hint at its extension and perhaps a name.
-/
import SourceOutline.FileTree
import SourceOutline.Registry

set_option autoImplicit false

namespace SourceOutline

/-- A source. -/
inductive Source where
  | file (path : String)
  | text (content extension : String) (name : Option String)
deriving DecidableEq, Repr

namespace Source

/-- The extension that selects the language. -/
def extension : Source → String
  | .file path => (FilePath.extension? path).getD ""
  | .text _ extension _ => bareExtension extension

/-- The key under which the bookmarks of the source are kept. A text has one only if
it has a name. -/
def fileKey? : Source → Option String
  | .file path => some path
  | .text _ _ name => name.filter fun name => !name.isEmpty

/-- The path of a source on file. -/
def path? : Source → Option String
  | .file path => some path
  | .text .. => none

/-- The text of the source. -/
def read (disk : FileTree) : Source → Except FileError String
  | .file path => disk.read path
  | .text content _ _ => .ok content

/-- The name of the class that a code section of the source stands for: the stem of
its file name, with underscores for hyphens. -/
def componentName? (source : Source) : Option String := do
  let key ← source.fileKey?
  let stem ← FilePath.stem? key
  if stem.isEmpty then none
  else return String.ofList (stem.toList.map fun c => if c == '-' then '_' else c)

end Source

end SourceOutline
