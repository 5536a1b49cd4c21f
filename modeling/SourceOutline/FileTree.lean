/-
A tree of files, directories and symbolic links, seen from a working directory. It
is a model of a disk that is just detailed enough for the failures the program can
meet: a path may lead nowhere, through a file, or to a directory where a file is
wanted, and a file may hold bytes that are not text.

Links are followed wherever a path is, so that one file may have many names. What
a file is known by is its canonical path, on which there are no links.

Names are texts, as a disk with UTF-8 names has them. Neither owners and permissions
nor the second names that a file itself may have are here.
-/
import SourceOutline.FilePath
import SourceOutline.Member.Basic

set_option autoImplicit false

namespace SourceOutline

/-- Why a file operation failed. -/
inductive FileError where
  | notFound
  | notDirectory
  | isDirectory
  | alreadyExists
  /-- More links follow on one another than a disk follows, as in a circle. -/
  | tooManyLinks
  /-- The file does not hold text. -/
  | notText
  /-- A name has more bytes than a disk takes. -/
  | nameTooLong
  /-- A path holds a null character, which no disk takes. -/
  | nullInPath
deriving DecidableEq, Repr

/-- The wording of a failure. -/
def FileError.message : FileError → String
  | .notFound => "No such file or directory (os error 2)"
  | .notDirectory => "Not a directory (os error 20)"
  | .isDirectory => "Is a directory (os error 21)"
  | .alreadyExists => "File exists (os error 17)"
  | .tooManyLinks => "Too many levels of symbolic links (os error 40)"
  | .notText => "stream did not contain valid UTF-8"
  | .nameTooLong => "File name too long (os error 36)"
  | .nullInPath => "file name contained an unexpected NUL byte"

/-- What a path leads to. -/
inductive FileNode where
  | directory
  | text (content : String)
  /-- A file whose bytes are not text. -/
  | binary
deriving DecidableEq, Repr

/-- A tree of nodes by the segments of their absolute paths. -/
structure FileTree where
  /-- The absolute path of the working directory. -/
  home : String
  nodes : List (List String × FileNode) := []
  /-- The symbolic links, by the segments of their absolute paths, and the paths they hold. -/
  links : List (List String × String) := []
deriving DecidableEq, Repr

namespace FileTree

/-! ## Looking -/

/-- The node at a place. The working directory and those around it are always
there. -/
def node? (tree : FileTree) (place : List String) : Option FileNode :=
  if (FilePath.under? place (FilePath.segments tree.home)).isSome then some .directory
  else tree.nodes.lookup place

/-- The path that the link at a place holds, if there is a link. -/
def link? (tree : FileTree) (place : List String) : Option String :=
  tree.links.lookup place

/-- The most bytes that a segment may have. -/
def maxSegment : Nat := 255

/-- The most bytes that a path may have. -/
def maxPath : Nat := 4095

/-- The most links that are followed along a path. -/
def maxLinks : Nat := 40

/-- Whether a path ends in a slash, or in a dot behind a slash, and so can only mean a
directory. -/
def wantsDirectory (path : String) : Bool :=
  Text.endsWith ['/'] path.toList || Text.endsWith ['/', '.'] path.toList

/-- Where one segment leads from a directory. -/
def along (place : List String) (segment : String) : List String :=
  if segment == "." then place
  else if segment == ".." then place.dropLast
  else place ++ [segment]

/-- Where a link at a place starts from: a relative one, from the directory that has it. -/
def linkBase (place : List String) (target : String) : List String :=
  if FilePath.isAbsolute target then [] else place.dropLast

/-- The segments along a link. One that can only mean a directory ends in a dot, which
leads on from directories only. -/
def linkSegments (target : String) : List String :=
  FilePath.segments target ++ if wantsDirectory target then ["."] else []

/-- Follows segments from a place. All but the last have to lead to directories. What
comes of a link, and of the segments behind it, is for `follow` to say. -/
def walkWith (tree : FileTree) (follow : List String → List String → Except FileError (List String))
    (place : List String) (segments : List String) : Except FileError (List String) :=
  match tree.link? place with
  | some target => follow (linkBase place target) (linkSegments target ++ segments)
  | none =>
    match segments with
    | [] => .ok place
    | segment :: rest =>
      match tree.node? place with
      | some .directory =>
        if maxSegment < segment.utf8ByteSize then .error .nameTooLong
        else walkWith tree follow (along place segment) rest
      | some _ => .error .notDirectory
      | none => .error .notFound

/-- Follows segments from a place, and as many links on the way. -/
def walk (tree : FileTree) : Nat → List String → List String → Except FileError (List String)
  | 0 => tree.walkWith fun _ _ => .error .tooManyLinks
  | links + 1 => tree.walkWith (tree.walk links)

/-- The segments along a path, those of the working directory included. -/
def route (tree : FileTree) (path : String) : Except FileError (List String) :=
  if path.toList.contains '\x00' then .error .nullInPath
  else if path.isEmpty then .error .notFound
  else if maxPath < path.utf8ByteSize then .error .nameTooLong
  else if FilePath.isAbsolute path then .ok (FilePath.segments path)
  else .ok (FilePath.segments tree.home ++ FilePath.segments path)

/-- The place a path means, whether or not something is there. -/
def locate (tree : FileTree) (path : String) : Except FileError (List String) := do
  tree.walk maxLinks [] (← tree.route path)

/-- The node a path leads to. -/
def find (tree : FileTree) (path : String) : Except FileError FileNode := do
  let place ← tree.locate path
  match tree.node? place with
  | none => .error .notFound
  | some node =>
    if wantsDirectory path && node != .directory then .error .notDirectory else .ok node

/-- Whether a path leads anywhere. -/
def exists? (tree : FileTree) (path : String) : Bool :=
  match tree.find path with
  | .ok _ => true
  | .error _ => false

/-- The text of a file. -/
def read (tree : FileTree) (path : String) : Except FileError String := do
  match ← tree.find path with
  | .text content => .ok content
  | .binary => .error .notText
  | .directory => .error .isDirectory

/-- The absolute path of what a path leads to, all links followed. -/
def canonical? (tree : FileTree) (path : String) : Option String :=
  match tree.locate path with
  | .ok place =>
    if tree.exists? path then some (joinTexts "/" ("" :: place)) else none
  | .error _ => none

/-! ## Changing -/

/-- The tree with a node at a place. -/
def put (tree : FileTree) (place : List String) (node : FileNode) : FileTree :=
  { tree with nodes := (place, node) :: tree.nodes.filter (fun entry => entry.1 != place) }

/-- The tree without the link or the node at a place. -/
def drop (tree : FileTree) (place : List String) : FileTree :=
  { tree with
    nodes := tree.nodes.filter (fun entry => entry.1 != place)
    links := tree.links.filter (fun entry => entry.1 != place) }

/-- Writes a file. Its directory has to be there. -/
def writeNode (tree : FileTree) (path : String) (node : FileNode) : Except FileError FileTree := do
  let place ← tree.locate path
  match tree.node? place with
  | some .directory => .error .isDirectory
  | some _ => if wantsDirectory path then .error .notDirectory else .ok (tree.put place node)
  | none =>
    if wantsDirectory path then .error .isDirectory
    else match tree.node? place.dropLast with
      | some .directory => .ok (tree.put place node)
      | some _ => .error .notDirectory
      | none => .error .notFound

/-- Writes a text to a file. -/
def write (tree : FileTree) (path : String) (content : String) : Except FileError FileTree :=
  tree.writeNode path (.text content)

/-- Makes the directories on the way along segments, as far as they are missing. -/
def makePath (tree : FileTree) (place : List String) : List String → Except FileError FileTree
  | [] => .ok tree
  | segment :: rest =>
    match tree.walk maxLinks place [segment] with
    | .error error => .error error
    | .ok next =>
      match tree.node? next with
      | some .directory => makePath tree next rest
      | some _ => .error (if rest.isEmpty then .alreadyExists else .notDirectory)
      | none =>
        -- A link that leads nowhere is in the way of a directory.
        if next == place ++ [segment] then makePath (tree.put next .directory) next rest
        else .error .alreadyExists

/-- Makes a directory and those around it. -/
def makeDirectories (tree : FileTree) (path : String) : Except FileError FileTree := do
  tree.makePath [] (← tree.route path)

/-- Makes the directory of a file and then writes the file. -/
def save (tree : FileTree) (path : String) (node : FileNode) : Except FileError FileTree := do
  let tree ← tree.makePath [] (← tree.route path).dropLast
  tree.writeNode path node

/-- Removes a file, or a link and not what it leads to. -/
def remove (tree : FileTree) (path : String) : Except FileError FileTree := do
  let segments ← tree.route path
  let directory ← tree.walk maxLinks [] segments.dropLast
  let place := along directory (segments.getLast?.getD ".")
  match tree.link? place, tree.node? place with
  | none, none => .error .notFound
  | none, some .directory => .error .isDirectory
  | _, _ => if wantsDirectory path then .error .notDirectory else .ok (tree.drop place)

end FileTree

end SourceOutline
