/-
Names of files. A path is a text; what counts are its segments between slashes.
Empty segments and segments of one dot lead nowhere and are passed over, except
that a path may begin with a dot segment.
-/
import SourceOutline.Text.Basic

set_option autoImplicit false

namespace SourceOutline.FilePath

/-- The segments of a path that count. -/
def segments (path : String) : List String :=
  match (Text.splitAt (· == '/') path.toList).map String.ofList with
  | [] => []
  | first :: rest =>
    (if first.isEmpty then [] else [first])
      ++ rest.filter fun segment => segment != "" && segment != "."

/-- Whether a path starts at the root. -/
def isAbsolute (path : String) : Bool :=
  Text.startsWith ['/'] path.toList

/-- The segments that lead on from a directory, if it is on the way. -/
def under? : List String → List String → Option (List String)
  | [], path => some path
  | segment :: home, other :: path => if segment == other then under? home path else none
  | _ :: _, [] => none

/-- The last segment, if it names something. -/
def fileName? (path : String) : Option String :=
  match (segments path).getLast? with
  | some name => if name == "." || name == ".." then none else some name
  | none => none

/-- A file name cut at its last dot. A name whose only dot comes first is not cut. -/
def cutName (name : String) : String × Option String :=
  match Text.splitLast? '.' name.toList with
  | some ([], _) => (name, none)
  | some (stem, extension) => (String.ofList stem, some (String.ofList extension))
  | none => (name, none)

/-- What follows the last dot of the file name. -/
def extension? (path : String) : Option String :=
  fileName? path >>= fun name => (cutName name).2

/-- What precedes the last dot of the file name. -/
def stem? (path : String) : Option String :=
  (fileName? path).map fun name => (cutName name).1

end SourceOutline.FilePath
