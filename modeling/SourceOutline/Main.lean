/-
The program. What a command may look at is read from the disk first, then the
command is run on that picture of the disk, and what it changed is written back.
-/
import SourceOutline.CommandLine.Basic
import Std.Time.Format

set_option autoImplicit false

namespace SourceOutline.Main

open CommandLine

/-! ## The picture of the disk -/

/-- The text of a place. -/
def pathOf (place : List String) : String := joinTexts "/" ("" :: place)

/-- The node of the bytes of a file. -/
def nodeOf (bytes : ByteArray) : FileNode :=
  match String.fromUTF8? bytes with
  | some content => .text content
  | none => .binary

/-- The node at a path of the disk. What is there but cannot be read as a file counts
as a directory. -/
def nodeAt? (path : String) : IO (Option FileNode) := do
  let file ← (IO.FS.readBinFile path).toBaseIO
  let real ← (IO.FS.realPath path).toBaseIO
  match file, real with
  | .ok bytes, _ => return some (nodeOf bytes)
  | .error _, .ok _ => return some .directory
  | .error _, .error _ => return none

/-- The place that a place of the disk is, all links followed. -/
def realPlace? (place : List String) : IO (Option (List String)) := do
  match ← (IO.FS.realPath (pathOf place)).toBaseIO with
  | .ok real => return some (FilePath.segments real.toString)
  | .error _ => return none

/-- The places from the root down to a place, itself included. -/
def placesDownTo (place : List String) : List (List String) :=
  (List.range place.length).map fun n => place.take (n + 1)

/-- Adds to a picture what the disk has from the root down to a place. -/
def lookAt (picture : FileTree) (place : List String) : IO FileTree :=
  (placesDownTo place).foldlM (fun picture place => do
    match ← nodeAt? (pathOf place) with
    | some node => return picture.put place node
    | none => return picture) picture

/-- Adds to a picture what the disk has along segments. From a link it goes on where the
link leads in the end, and that is what the link holds in the picture. -/
def lookAlong (picture : FileTree) (place : List String) : List String → IO FileTree
  | [] => return picture
  | segment :: rest => do
    let next := FileTree.along place segment
    match ← realPlace? next with
    | none => return picture
    | some real =>
      let picture ← lookAt picture real
      let links := if real == next then picture.links else (next, pathOf real) :: picture.links
      lookAlong { picture with links := links } real rest

/-- Adds to a picture what the disk has along a path. -/
def look (picture : FileTree) (path : String) : IO FileTree := do
  match picture.route path with
  | .error _ => return picture
  | .ok segments => lookAlong picture [] segments

/-- The paths a command may look at. -/
def pathsOf (surroundings : Surroundings) (arguments : List String) : List String :=
  match read arguments with
  | .error _ => []
  | .ok command =>
    command.bookmarks.getD surroundings.store ::
      match command.task with
      | .outline request =>
        request.file.toList ++ request.config.toList ++ request.output.toList
      | .setBookmark file _ _ => [file]
      | .clearBookmarks file => [file]
      | .listBookmarks file => [file]

/-- Writes the nodes that changed back to the disk. Of nested directories the outer
one was made first and stands last. -/
def commit (before after : FileTree) : IO Unit :=
  after.nodes.reverse.forM fun (place, node) => do
    if before.nodes.lookup place == some node then return
    match node with
    | .directory => IO.FS.createDirAll (pathOf place)
    | .text content => IO.FS.writeFile (pathOf place) content
    | .binary => return

/-! ## The surroundings -/

/-- A number as so many hexadecimal digits. -/
def hexDigits (width n : Nat) : String :=
  let digits := Nat.toDigits 16 (n % Nat.pow 16 width)
  String.ofList (List.replicate (width - digits.length) '0' ++ digits)

/-- A token made from a random number, in the usual form of a random identifier. -/
def tokenOf (n : Nat) : String :=
  joinTexts "-" [hexDigits 8 n, hexDigits 4 (n >>> 32), "4" ++ hexDigits 3 (n >>> 48),
    "a" ++ hexDigits 3 (n >>> 60), hexDigits 12 (n >>> 72)]

/-- The directory for data of the user. -/
def dataDirectory : IO String := do
  match ← IO.getEnv "XDG_DATA_HOME" with
  | some directory => return directory
  | none => return (← IO.getEnv "HOME").getD "" ++ "/.local/share"

/-- What commands rely on besides the files. -/
def surroundings (started : Nat) : IO Surroundings := do
  let low ← IO.rand 0 (1 <<< 60)
  let high ← IO.rand 0 (1 <<< 59)
  let now ← Std.Time.Timestamp.now
  return {
    dataDirectory := ← dataDirectory
    tokens := fun n => tokenOf (low + high <<< 60 + n)
    stamp := {
      durationMs := (← IO.monoMsNow) - started
      timestamp := (Std.Time.DateTime.ofTimestampWithZone now .UTC).toISO8601String } }

end SourceOutline.Main

open SourceOutline in
/-- Runs the command that the arguments ask for. -/
def main (arguments : List String) : IO UInt32 := do
  let started ← IO.monoMsNow
  let surroundings ← Main.surroundings started
  let empty : FileTree := { home := toString (← IO.currentDir) }
  let before ← (Main.pathsOf surroundings arguments).foldlM Main.look empty
  let (result, after) := CommandLine.run surroundings arguments before
  Main.commit before after
  IO.print result.printed
  match result.failure with
  | some message => IO.eprintln ("Error: " ++ message)
  | none => pure ()
  return UInt32.ofNat result.code
