/-
What the commands do. A command looks at a tree of files, may change it, prints
something and ends with a code: zero if it did what was asked, one if it could not,
two if it did not understand the arguments.
-/
import SourceOutline.CommandLine.Arguments
import SourceOutline.Generator
import SourceOutline.Mappers
import SourceOutline.Options.Reading

set_option autoImplicit false

namespace SourceOutline.CommandLine

/-- What a command leaves behind. -/
structure Result where
  code : Nat := 0
  /-- What is printed. -/
  printed : String := ""
  /-- The message of a failure. -/
  failure : Option String := none
deriving DecidableEq, Repr

/-- What a command can rely on besides the files. -/
structure Surroundings where
  /-- The directory for data of the user. -/
  dataDirectory : String
  /-- Tokens for members without a key. -/
  tokens : Nat → String
  /-- What every outline is stamped with. -/
  stamp : Metadata
  /-- The mappers of the languages. -/
  mappers : MapperFactory Unit := standardFactory

/-- Why a command failed. -/
inductive Failure where
  | noFile
  | config (path : String)
  | openStore (path : String)
  | unsupported (extension file : String)
  | map (file : String) (attempts : Nat) (message : String)
  | write
  | setBookmark
  | clearBookmarks
deriving DecidableEq, Repr

/-- The wording of a failure. -/
def Failure.message : Failure → String
  | noFile => "No source file given (see --help)"
  | config path => "Failed to load config " ++ path
  | openStore path => "Failed to open bookmark store " ++ path
  | unsupported extension file => "Unsupported file type \x27." ++ extension ++ "\x27: " ++ file
  | map file attempts message =>
    "Failed to map " ++ file ++ " after " ++ Report.number attempts ++ " attempt(s): "
      ++ message
  | write => "Failed to write output file"
  | setBookmark => "Failed to store bookmark"
  | clearBookmarks => "Failed to clear bookmarks"

/-- The name of the program. -/
def programName : String := "codemap"

/-- How often a source is tried. -/
def attempts : Nat := 3

/-- Where bookmarks are kept if nothing else is said. -/
def Surroundings.store (surroundings : Surroundings) : String :=
  surroundings.dataDirectory ++ "/" ++ programName ++ "/bookmarks.json"

/-- What outlines are made with. -/
def Surroundings.generator (surroundings : Surroundings) : Generator Unit where
  registry := .standard
  factory := surroundings.mappers
  maxAttempts := attempts
  tokens := surroundings.tokens
  stamp := surroundings.stamp

/-- The key of a source: its canonical path, or the path as given if there is no such
file. -/
def sourceKey (disk : FileTree) (path : String) : String := (disk.canonical? path).getD path

/-- The options of a request: those of its document, then those of its arguments. -/
def OutlineRequest.options (request : OutlineRequest) (disk : FileTree) :
    Except Failure Options := do
  let options ← match request.config with
    | none => .ok {}
    | some path =>
      match disk.read path with
      | .error _ => .error (.config path)
      | .ok text =>
        match Options.parse? text with
        | some options => .ok options
        | none => .error (.config path)
  let options : Options := { options with
    sortMembers := options.sortMembers && !request.noSort
    showSignatures := options.showSignatures && !request.hideSignatures
    classNameFilter := request.classFilter.or options.classNameFilter
    memberNameFilter := request.memberFilter.or options.memberNameFilter }
  return request.hidden.foldl Hidden.apply options

/-- Opens the store of bookmarks. -/
def openStore (disk : FileTree) (path : String) : Except Failure Store :=
  match Store.load disk path with
  | .ok store => .ok store
  | .error _ => .error (.openStore path)

/-- Makes an outline and prints it or writes it to a file. -/
def runOutline (surroundings : Surroundings) (request : OutlineRequest) (storePath : String)
    (disk : FileTree) : Except Failure String × FileTree :=
  match request.file with
  | none => (.error .noFile, disk)
  | some file =>
    match (do return (← request.options disk, ← openStore disk storePath) :
        Except Failure (Options × Store)) with
    | .error failure => (.error failure, disk)
    | .ok (options, store) =>
      let source := Source.file (sourceKey disk file)
      match surroundings.generator.generate source options ⟨disk, store, ()⟩ with
      | (.unsupported extension, world) => (.error (.unsupported extension file), world.disk)
      | (.failed message made, world) => (.error (.map file made message), world.disk)
      | (.ready outline, world) =>
        let text := Report.render outline request.format
        match request.output with
        | none => (.ok (text ++ "\n"), world.disk)
        | some path =>
          match world.disk.write path text with
          | .ok disk => (.ok "", disk)
          | .error _ => (.error .write, world.disk)

/-- Changes bookmarks; a change that cannot be saved is a failure. -/
def changeBookmarks (failure : Failure) (result : Except StoreError Unit × Store × FileTree) :
    Except Failure String × FileTree :=
  match result with
  | (.ok (), _, disk) => (.ok "", disk)
  | (.error _, _, disk) => (.error failure, disk)

/-- The bookmarks of a file, one on each line. -/
def listing (bookmarks : FileBookmarks) : String :=
  String.join (bookmarks.entries.map fun entry => entry.2 ++ "\t" ++ entry.1 ++ "\n")

/-- Does what a task asks for. -/
def runTask (surroundings : Surroundings) (storePath : String) (task : Task) (disk : FileTree) :
    Except Failure String × FileTree :=
  match task with
  | .outline request => runOutline surroundings request storePath disk
  | .setBookmark file id color =>
    match openStore disk storePath with
    | .error failure => (.error failure, disk)
    | .ok store => changeBookmarks .setBookmark (store.set disk (sourceKey disk file) id color)
  | .clearBookmarks file =>
    match openStore disk storePath with
    | .error failure => (.error failure, disk)
    | .ok store => changeBookmarks .clearBookmarks (store.clear disk (sourceKey disk file))
  | .listBookmarks file =>
    match openStore disk storePath with
    | .error failure => (.error failure, disk)
    | .ok store => (.ok (listing (store.bookmarks.ofFile (sourceKey disk file))), disk)

/-- Runs the command that some arguments ask for. -/
def run (surroundings : Surroundings) (arguments : List String) (disk : FileTree) :
    Result × FileTree :=
  match read arguments with
  | .error .usage => ({ code := 2 }, disk)
  | .error .help => ({}, disk)
  | .error .version => ({ printed := programName ++ " " ++ toolVersion ++ "\n" }, disk)
  | .ok command =>
    let storePath := command.bookmarks.getD surroundings.store
    match runTask surroundings storePath command.task disk with
    | (.ok printed, disk) => ({ printed := printed }, disk)
    | (.error failure, disk) => ({ code := 1, failure := some failure.message }, disk)

end SourceOutline.CommandLine
