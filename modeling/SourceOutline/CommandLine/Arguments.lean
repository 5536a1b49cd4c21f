/-
The arguments of the command line. A command either prints the outline of a file,
which is what happens without a word for it, or manages bookmarks.

Arguments are read from left to right. The first one that is not understood ends
the reading, and so does the request for the version, so whichever comes first
decides. A word is taken for a command only if nothing else came before it; after
that it is a file like any other.
-/
import SourceOutline.Options.Basic
import SourceOutline.Report.Format

set_option autoImplicit false

namespace SourceOutline.CommandLine

/-! ## What can be asked for -/

/-- What can be hidden from an outline. -/
inductive Hidden where
  | publicMethods
  | privateMethods
  | publicProperties
  | privateProperties
  | publicFields
  | privateFields
  | classes
  | interfaces
  | structs
  | others
deriving DecidableEq, Repr

/-- The word for something to hide. -/
def Hidden.ofName? (name : String) : Option Hidden :=
  [("public-methods", publicMethods), ("private-methods", privateMethods),
   ("public-properties", publicProperties), ("private-properties", privateProperties),
   ("public-fields", publicFields), ("private-fields", privateFields), ("classes", classes),
   ("interfaces", interfaces), ("structs", structs), ("others", others)].lookup name

/-- Options without something. -/
def Hidden.apply (options : Options) : Hidden → Options
  | publicMethods => { options with methods := { options.methods with publicShown := false } }
  | privateMethods => { options with methods := { options.methods with privateShown := false } }
  | publicProperties =>
    { options with properties := { options.properties with publicShown := false } }
  | privateProperties =>
    { options with properties := { options.properties with privateShown := false } }
  | publicFields => { options with fields := { options.fields with publicShown := false } }
  | privateFields => { options with fields := { options.fields with privateShown := false } }
  | classes => { options with containers := { options.containers with classes := false } }
  | interfaces => { options with containers := { options.containers with interfaces := false } }
  | structs => { options with containers := { options.containers with structs := false } }
  | others => { options with containers := { options.containers with others := false } }

/-- A request for an outline. -/
structure OutlineRequest where
  file : Option String := none
  format : Report.Format := .default
  /-- Where to write the outline, unless it is printed. -/
  output : Option String := none
  /-- A document with options. -/
  config : Option String := none
  noSort : Bool := false
  hideSignatures : Bool := false
  classFilter : Option String := none
  memberFilter : Option String := none
  hidden : List Hidden := []

/-- What a command does. -/
inductive Task where
  | outline (request : OutlineRequest)
  | setBookmark (file id color : String)
  | clearBookmarks (file : String)
  | listBookmarks (file : String)

/-- A command, and where the bookmarks are kept. -/
structure Command where
  task : Task
  bookmarks : Option String := none

/-- Why there is no command. -/
inductive Stop where
  /-- The arguments are not understood. -/
  | usage
  /-- Only the version is wanted. -/
  | version
  /-- Only an explanation is wanted. -/
  | help
deriving DecidableEq, Repr

/-! ## Names of options -/

/-- The options that take a value. -/
inductive Setting where
  | format
  | output
  | config
  | classFilter
  | memberFilter
  | hide
  | bookmarks
deriving DecidableEq, Repr

/-- The options that take none. -/
inductive Flag where
  | noSort
  | hideSignatures
  | verbose
  | version
  | help
deriving DecidableEq, Repr

/-- The words that may come in a certain place. -/
structure Level where
  settings : List Setting
  flags : List Flag
  /-- How many words that are neither options nor commands may come. -/
  words : Nat
  /-- The commands. -/
  commands : List String := []
  /-- Whether a command has to be the first argument. -/
  commandFirst : Bool := false

/-- The option of a long name. -/
def settingNamed? (name : String) : Option Setting :=
  [("format", Setting.format), ("output", .output), ("config", .config),
   ("class-filter", .classFilter), ("member-filter", .memberFilter), ("hide", .hide),
   ("bookmarks", .bookmarks)].lookup name

/-- The flag of a long name. -/
def flagNamed? (name : String) : Option Flag :=
  [("no-sort", Flag.noSort), ("hide-signatures", .hideSignatures), ("verbose", .verbose),
   ("version", .version), ("help", .help)].lookup name

/-- The option of a letter. -/
def settingLettered? (letter : Char) : Option Setting :=
  [('f', Setting.format), ('o', .output), ('c', .config)].lookup letter

/-- The flag of a letter. -/
def flagLettered? (letter : Char) : Option Flag :=
  [('v', Flag.verbose), ('V', .version), ('h', .help)].lookup letter

/-- What the words of an outline request are. -/
def outlineLevel : Level where
  settings := [.format, .output, .config, .classFilter, .memberFilter, .hide, .bookmarks]
  flags := [.noSort, .hideSignatures, .verbose, .help]
  words := 1

/-- What may come at the beginning. -/
def rootLevel : Level :=
  { outlineLevel with
    flags := .version :: outlineLevel.flags
    commands := ["outline", "bookmark", "help"]
    commandFirst := true }

/-- What may come after the word for bookmarks. -/
def bookmarkLevel : Level where
  settings := [.bookmarks]
  flags := [.verbose, .help]
  words := 0
  commands := ["set", "clear", "list", "help"]

/-- What may come after an action on bookmarks that takes some words. -/
def actionLevel (words : Nat) : Level where
  settings := [.bookmarks]
  flags := [.verbose, .help]
  words := words

/-! ## Reading one level -/

/-- What has been read so far. -/
structure Scan where
  request : OutlineRequest := {}
  bookmarks : Option String := none
  /-- The options that came, because most may come only once. -/
  settings : List Setting := []
  flags : List Flag := []
  words : List String := []
  /-- An option that waits for its value. -/
  pending : Option Setting := none
  /-- Whether all that follows is words. -/
  literal : Bool := false
  /-- Whether anything came at all. -/
  started : Bool := false

namespace Scan

/-- A value that names a file. It must not be empty. -/
def path? (value : String) : Option String := if value.isEmpty then none else some value

/-- Stores the value of an option. -/
def store? (scan : Scan) (setting : Setting) (value : String) : Option Scan := do
  let request := scan.request
  match setting with
  | .format => return { scan with
      request := { request with format := ← Report.Format.ofName? value } }
  | .output => return { scan with request := { request with output := some (← path? value) } }
  | .config => return { scan with request := { request with config := some (← path? value) } }
  | .classFilter => return { scan with request := { request with classFilter := some value } }
  | .memberFilter => return { scan with request := { request with memberFilter := some value } }
  | .hide => return { scan with
      request := { request with hidden := request.hidden ++ [← Hidden.ofName? value] } }
  | .bookmarks => return { scan with bookmarks := some (← path? value) }

/-- Takes an option with its value. Only what is to be hidden may be given more than
once. -/
def set (scan : Scan) (level : Level) (setting : Setting) (value : String) : Except Stop Scan :=
  if !level.settings.contains setting
      || (setting != .hide && scan.settings.contains setting) then .error .usage
  else match scan.store? setting value with
    | some scan => .ok { scan with
        settings := setting :: scan.settings, pending := none, started := true }
    | none => .error .usage

/-- Takes an option whose value is the next argument. -/
def await (scan : Scan) (level : Level) (setting : Setting) : Except Stop Scan :=
  if level.settings.contains setting then .ok { scan with pending := some setting, started := true }
  else .error .usage

/-- Takes a flag. -/
def raise (scan : Scan) (level : Level) (flag : Flag) : Except Stop Scan :=
  if !level.flags.contains flag then .error .usage
  else if flag == .version then .error .version
  else if flag == .help then .error .help
  else if scan.flags.contains flag then .error .usage
  else
    let request := { scan.request with
      noSort := scan.request.noSort || flag == .noSort
      hideSignatures := scan.request.hideSignatures || flag == .hideSignatures }
    .ok { scan with request := request, flags := flag :: scan.flags, started := true }

/-- Takes an option by its long name, perhaps with a value after an equals sign. -/
def long (scan : Scan) (level : Level) (text : List Char) : Except Stop Scan :=
  let name := String.ofList (text.takeWhile (· != '='))
  let value := match text.dropWhile (· != '=') with
    | _ :: value => some (String.ofList value)
    | [] => none
  match settingNamed? name, flagNamed? name, value with
  | some setting, _, some value => scan.set level setting value
  | some setting, _, none => scan.await level setting
  | none, some flag, none => scan.raise level flag
  | _, _, _ => .error .usage

/-- Takes options by their letters. The first one that takes a value takes the rest
of the argument. -/
def letters (level : Level) : List Char → Scan → Except Stop Scan
  | [], scan => .ok scan
  | letter :: rest, scan =>
    match settingLettered? letter with
    | some setting =>
      match rest with
      | [] => scan.await level setting
      | '=' :: value => scan.set level setting (String.ofList value)
      | value => scan.set level setting (String.ofList value)
    | none =>
      match flagLettered? letter with
      | some flag => do letters level rest (← scan.raise level flag)
      | none => .error .usage

/-- Takes a word. -/
def word (scan : Scan) (level : Level) (text : String) : Except Stop Scan :=
  if scan.words.length < level.words then
    .ok { scan with words := scan.words ++ [text], started := true }
  else .error .usage

/-- Whether an argument looks like an option. -/
def looksLikeOption (text : String) : Bool :=
  Text.startsWith ['-'] text.toList && text != "-"

/-- Whether a word is a command in its place. -/
def isCommand (scan : Scan) (level : Level) (text : String) : Bool :=
  level.commands.contains text && !(level.commandFirst && scan.started)

end Scan

/-- What one level of arguments comes to: what was read, and the command that
follows, with its arguments. -/
structure LevelResult where
  scan : Scan
  command : Option (String × List String) := none

/-- Reads the arguments of one level. -/
def readLevel (level : Level) (scan : Scan) : List String → Except Stop LevelResult
  | [] => if scan.pending.isSome then .error .usage else .ok { scan := scan }
  | text :: rest =>
    match scan.pending with
    | some setting =>
      if Scan.looksLikeOption text then .error .usage
      else do readLevel level (← scan.set level setting text) rest
    | none =>
      if scan.literal then do readLevel level (← scan.word level text) rest
      else if text == "--" then readLevel level { scan with literal := true } rest
      else match Text.dropStart? ['-', '-'] text.toList with
        | some name => do readLevel level (← scan.long level name) rest
        | none =>
          if Scan.looksLikeOption text then do
            readLevel level (← Scan.letters level (text.toList.drop 1) scan) rest
          else if scan.isCommand level text then .ok { scan := scan, command := some (text, rest) }
          else do readLevel level (← scan.word level text) rest

/-! ## Reading a command -/

/-- Reads the arguments of a last level. -/
def readLast (level : Level) (arguments : List String) : Except Stop Scan := do
  return (← readLevel level {} arguments).scan

/-- The words of a request as its file, which must not be empty. -/
def outlineOf (scan : Scan) : Except Stop Task :=
  match scan.words with
  | [] => .ok (.outline scan.request)
  | file :: _ =>
    if file.isEmpty then .error .usage
    else .ok (.outline { scan.request with file := some file })

/-- Reads an action on bookmarks. -/
def readAction (action : String) (arguments : List String) : Except Stop (Task × Scan) := do
  let scan ← readLast (actionLevel (if action == "set" then 3 else 1)) arguments
  match action, scan.words with
  | "set", [file, id, color] =>
    if file.isEmpty then .error .usage else return (.setBookmark file id color, scan)
  | "clear", [file] => if file.isEmpty then .error .usage else return (.clearBookmarks file, scan)
  | "list", [file] => if file.isEmpty then .error .usage else return (.listBookmarks file, scan)
  | _, _ => .error .usage

/-- What a request for an explanation comes to. The words that follow it have to lead
from command to command; actions on bookmarks are below the word for bookmarks. -/
def explain (commands : List String) : List String → Stop
  | [] => .help
  | word :: rest =>
    if !commands.contains word then .usage
    else explain (if word == "bookmark" then bookmarkLevel.commands else []) rest

/-- Reads a command. Where bookmarks are kept may be said at every level, and the
innermost counts. -/
def read (arguments : List String) : Except Stop Command := do
  let root ← readLevel rootLevel {} arguments
  match root.command with
  | none => return { task := ← outlineOf root.scan, bookmarks := root.scan.bookmarks }
  | some ("outline", rest) =>
    let scan ← readLast outlineLevel rest
    return { task := ← outlineOf scan, bookmarks := scan.bookmarks.or root.scan.bookmarks }
  | some ("help", rest) => .error (explain rootLevel.commands rest)
  | some (_, rest) =>
    let middle ← readLevel bookmarkLevel {} rest
    match middle.command with
    | none => .error .usage
    | some ("help", rest) => .error (explain bookmarkLevel.commands rest)
    | some (action, rest) =>
      let (task, scan) ← readAction action rest
      return { task := task, bookmarks := scan.bookmarks.or middle.scan.bookmarks }

end SourceOutline.CommandLine
