/-
What a list of bookmarks shows after any number of commands.

Every command starts from the disk. It opens the bookmark file, does one thing and ends, and
the next command knows nothing but what is on file. So the bookmarks at a time are a function
of the commands up to then, and `Ledger` is that function as somebody would keep it by hand:
for every file the colors by identity. A file is known by its canonical path, whichever of its
names a command is given, links included (`sourceKey`). A command that sets a bookmark makes one
entry, one that clears a file strikes its entries, and an outline strikes those that belong to
no member. Nothing else makes a difference, and in particular none of the options of an outline
does (`OutlineRequest.members?` does not look at them, but for whether they can be read at all).
How C# is read is a parameter, on which all commands agree.

The disk follows the ledger (`Follows`). The bookmark file has more to it than the ledger: it
may name files without bookmarks, and a change that changes no bookmark is not written. The
ledger does not see these, so what is compared is the color of each identity.

Two things are excluded since they are not reported or come too late (`Undisturbed`): a purge
that cannot be saved is passed over, and an outline that cannot be written has been made, and
its purge as well. A third one is no failure at all (`Apart`). An outline may be written over
the bookmark file, by its name or through a link. It has no field for bookmarks, and a file
without that field is a file without bookmarks (`load_of_output`), so nothing fails and all
bookmarks are gone: `bookmark_list_lost_to_output`.

Main statement: `bookmark_list_prints_ledger`.
-/
import SourceOutline.CommandLine.Basic
import SourceOutline.Proofs.BackgroundPurge
import SourceOutline.Proofs.Display
import SourceOutline.Proofs.Durability
import SourceOutline.Proofs.Keys
import SourceOutline.Proofs.RoundTrip

set_option autoImplicit false

namespace SourceOutline

/-! ## Identities and options -/

/-- How parameters are shown is no part of a key. -/
theorem identities_withShown (shown : Bool) (tokens : Nat → String) (taken : List String)
    (entries : List Entry) :
    identities tokens taken (entries.map (Entry.withShown shown))
      = identities tokens taken entries := by
  induction entries generalizing taken with
  | nil => rfl
  | cons entry rest ih =>
    have hkey : ∀ token, (entry.withShown shown).keyOr token = entry.keyOr token := by
      intro token
      rw [Entry.keyOr, Entry.key_withShown, Entry.keyOr]
    rw [List.map_cons, identities, identities, hkey, ih]

theorem Mapping.ids_identified_withShown (shown : Bool) (mapping : Mapping) (style : MarkerStyle)
    (source : String) (tokens : Nat → String) :
    ((mapping.withShown shown).identified style source tokens).ids
      = (mapping.identified style source tokens).ids := by
  rw [Mapping.identified_eq, Mapping.marked_withShown, Forest.assignIds, Forest.ids_assignIdsFrom,
    Forest.entries_withShown, identities_withShown, Mapping.identified_eq, Forest.assignIds,
    Forest.ids_assignIdsFrom]

namespace CommandLine

/-- The identities of all members of a source on file. There are none to speak of if the
extension has no language or the file cannot be read. -/
def memberIds? (parse : String → CSharp.SyntaxNode) (tokens : Nat → String) (disk : FileTree)
    (key : String) : Option (List String) := do
  let language ← Registry.standard.resolve (Source.file key).extension
  let text ← (disk.read key).toOption
  let mapping := language.mapping parse text (Generator.mapOptions (.file key) {})
  let markers := (language.mapperWith parse : Mapper Unit).markers
  return (mapping.identified markers text tokens).ids

variable {parse : String → CSharp.SyntaxNode}

/-- How parameters are shown is all that the options tell a mapper. -/
theorem ids_mapping_options (language : Language) (text : String) (source : Source)
    (options : Options) (style : MarkerStyle) (tokens : Nat → String) :
    ((language.mapping parse text (Generator.mapOptions source options)).identified style
        text tokens).ids
      = ((language.mapping parse text (Generator.mapOptions source {})).identified style
        text tokens).ids := by
  have hmapping := Language.mapping_withShown parse language text
    (Generator.mapOptions source {}) options.showSignatures
  rw [← Generator.mapOptions_showSignatures source {} options] at hmapping
  rw [hmapping, Mapping.ids_identified_withShown]

/-- **The members of an outline** have the same identities whatever its options are. -/
theorem memberIds?_eq_some {surroundings : Surroundings}
    (hmappers : surroundings.mappers = factoryWith parse) {key : String} {options : Options}
    {world : World Unit}
    (run : Completion surroundings.generator (.file key) options world) :
    memberIds? parse surroundings.tokens world.disk key = some run.forest.ids := by
  have hforest := run.forest_eq hmappers run.resolved run.read
  have htokens : surroundings.generator.tokens = surroundings.tokens := rfl
  have hregistry : surroundings.generator.registry = .standard := rfl
  have hresolved := run.resolved
  have hread : world.disk.read key = .ok run.text := run.read
  rw [hregistry] at hresolved
  rw [hforest, ids_mapping_options _ _ _ options, htokens, memberIds?, hresolved, hread]
  rfl

/-- A source that can be read, in a language that is known, is outlined, and its bookmarks
are purged. -/
theorem generate_of_memberIds? {surroundings : Surroundings}
    (hmappers : surroundings.mappers = factoryWith parse) {key : String} {disk : FileTree}
    {ids : List String} (h : memberIds? parse surroundings.tokens disk key = some ids)
    (options : Options) (store : Store) :
    ∃ outline world, world.disk = (store.purge disk key ids).2.2
      ∧ surroundings.generator.generate (.file key) options ⟨disk, store, ()⟩
        = (.ready outline, world) := by
  have hregistry : surroundings.generator.registry = .standard := rfl
  have hparts := h
  rw [memberIds?] at hparts
  obtain ⟨language, hlanguage, hrest⟩ := Option.bind_eq_some_iff.1 hparts
  obtain ⟨text, htext, -⟩ := Option.bind_eq_some_iff.1 hrest
  rw [← hregistry] at hlanguage
  cases hread : disk.read key with
  | error error =>
    rw [hread] at htext
    cases htext
  | ok text =>
    let world : World Unit := ⟨disk, store, ()⟩
    have hsource : (Source.file key).read world.disk = .ok text := hread
    have hready := Generator.generate_first hmappers hlanguage hsource options
    refine ⟨_, _, ?_, hready⟩
    have hids := memberIds?_eq_some hmappers (.first hmappers hlanguage hsource options)
    rw [h] at hids
    -- The purge is by the identities of the run, and these are the ones that are asked for.
    rw [Completion.worldAfter, ← Option.some.inj hids]
    rfl

/-! ## The ledger -/

/-- The colors of every file, by its key and by identity, as somebody keeps them who watches
the commands. -/
abbrev Ledger := String → String → Option String

/-- The ledger after a call of the store. -/
def Ledger.after (ledger : Ledger) : StoreCall → Ledger
  | .read _ _ => ledger
  | .entries _ => ledger
  | .set key id color => fun key' id' =>
    if key' = key ∧ id' = id then some color else ledger key' id'
  | .purge key ids => fun key' id' =>
    if key' = key ∧ id' ∉ ids then none else ledger key' id'
  | .clear key => fun key' id' => if key' = key then none else ledger key' id'

/-- The colors of one file as a list shows them, in the order of identities. -/
structure Lists (colors : String → Option String) (entries : List (String × String)) : Prop where
  ordered : entries.Pairwise fun a b => a.1 < b.1
  mem_iff : ∀ id color, (id, color) ∈ entries ↔ colors id = some color

/-- There is one list. -/
theorem Lists.unique {colors : String → Option String} {first second : List (String × String)}
    (hfirst : Lists colors first) (hsecond : Lists colors second) : first = second := by
  have hsame : (⟨first, hfirst.ordered⟩ : FileBookmarks) = ⟨second, hsecond.ordered⟩ := by
    refine Dictionary.ext_find? fun id => Option.ext fun color => ?_
    rw [Dictionary.find?_eq_some_iff, Dictionary.find?_eq_some_iff]
    exact (hfirst.mem_iff id color).trans (hsecond.mem_iff id color).symm
  exact congrArg Dictionary.entries hsame

theorem lists_singleton {colors : String → Option String} {id color : String}
    (hid : colors id = some color) (hothers : ∀ other, other ≠ id → colors other = none) :
    Lists colors [(id, color)] := by
  refine ⟨List.pairwise_singleton _ _, fun id' color' => ?_⟩
  rw [List.mem_singleton, Prod.mk.injEq]
  constructor
  · rintro ⟨rfl, rfl⟩
    exact hid
  · intro hcolor
    by_cases hsame : id' = id
    · rw [hsame, hid] at hcolor
      exact ⟨hsame, (Option.some.inj hcolor).symm⟩
    · rw [hothers id' hsame] at hcolor
      cases hcolor

theorem lists_entries (bookmarks : FileBookmarks) : Lists bookmarks.find? bookmarks.entries :=
  ⟨bookmarks.ordered, fun id color => (bookmarks.find?_eq_some_iff id color).symm⟩

/-- The source of an outline, by its key, and the identities of its members. An outline that
fails has none: no file is given, the options cannot be read, the extension has no language,
or the source cannot be read. -/
def OutlineRequest.members? (parse : String → CSharp.SyntaxNode) (request : OutlineRequest)
    (tokens : Nat → String) (disk : FileTree) : Option (String × List String) := do
  let file ← request.file
  let _ ← (request.options disk).toOption
  let ids ← memberIds? parse tokens disk (sourceKey disk file)
  return (sourceKey disk file, ids)

/-- The call of the store that a task comes to, unless it fails. -/
def Task.call? (parse : String → CSharp.SyntaxNode) (tokens : Nat → String) (disk : FileTree) :
    Task → Option StoreCall
  | .outline request =>
    (request.members? parse tokens disk).map fun found => .purge found.1 found.2
  | .setBookmark file id color => some (.set (sourceKey disk file) id color)
  | .clearBookmarks file => some (.clear (sourceKey disk file))
  | .listBookmarks file => some (.entries (sourceKey disk file))

/-- The ledger after a task. -/
def Ledger.afterTask (parse : String → CSharp.SyntaxNode) (ledger : Ledger)
    (tokens : Nat → String) (disk : FileTree) (task : Task) : Ledger :=
  ((task.call? parse tokens disk).map ledger.after).getD ledger

theorem Ledger.afterTask_of_call (ledger : Ledger) {tokens : Nat → String} {disk : FileTree}
    {task : Task} {call : StoreCall} (h : task.call? parse tokens disk = some call) :
    ledger.afterTask parse tokens disk task = ledger.after call := by
  rw [afterTask, h, Option.map_some, Option.getD_some]

/-- Whether the call of a task is saved, as far as there is something to save. -/
def Task.isSaved (parse : String → CSharp.SyntaxNode) (task : Task) (tokens : Nat → String)
    (storePath : String) (disk : FileTree) : Bool :=
  match Store.load disk storePath with
  | .error _ => true
  | .ok store =>
    ((task.call? parse tokens disk).map fun call =>
      !(store.answer disk call).1.isFailedWrite).getD true

/-- A run in which no file operation fails on the bookmark file or on the output. -/
structure Undisturbed (parse : String → CSharp.SyntaxNode) (surroundings : Surroundings)
    (storePath : String) (task : Task) (disk : FileTree) : Prop where
  saved : task.isSaved parse surroundings.tokens storePath disk = true
  written : (runTask surroundings storePath task disk).1 ≠ .error .write

/-- An outline that is not written over the bookmark file. -/
def Apart (parse : String → CSharp.SyntaxNode) (surroundings : Surroundings) (storePath : String)
    (task : Task) (disk : FileTree) : Prop :=
  ∀ request path, task = .outline request → request.output = some path →
    request.members? parse surroundings.tokens disk ≠ none →
    (runTask surroundings storePath task disk).2.canonical? path
      ≠ (runTask surroundings storePath task disk).2.canonical? storePath

/-- Commands one after the other with the bookmarks in one place, and the ledger of them. The
commands agree on how C# is read. In between, anything else may happen on the disk as long as
the bookmarks can be opened as they were. -/
inductive History (parse : String → CSharp.SyntaxNode) (storePath : String) (start : FileTree)
    (begun : Ledger) : FileTree → Ledger → Prop where
  | start : History parse storePath start begun start begun
  | ran {disk : FileTree} {ledger : Ledger}
      (earlier : History parse storePath start begun disk ledger)
      (surroundings : Surroundings) (supplied : surroundings.mappers = factoryWith parse)
      {arguments : List String} {command : Command} (understood : read arguments = .ok command)
      (shared : command.bookmarks.getD surroundings.store = storePath)
      (undisturbed : Undisturbed parse surroundings storePath command.task disk)
      (apart : Apart parse surroundings storePath command.task disk) :
      History parse storePath start begun (run surroundings arguments disk).2
        (ledger.afterTask parse surroundings.tokens disk command.task)
  | elsewhere {disk disk' : FileTree} {ledger : Ledger}
      (earlier : History parse storePath start begun disk ledger)
      (untouched : Store.load disk' storePath = Store.load disk storePath) :
      History parse storePath start begun disk' ledger

/-- A command that comes to a call of the store. -/
theorem History.ran_call {storePath : String} {start disk after : FileTree}
    {begun ledger : Ledger} (earlier : History parse storePath start begun disk ledger)
    (surroundings : Surroundings) (hmappers : surroundings.mappers = factoryWith parse)
    {arguments : List String} {command : Command} {call : StoreCall}
    (hread : read arguments = .ok command)
    (hshared : command.bookmarks.getD surroundings.store = storePath)
    (hundisturbed : Undisturbed parse surroundings storePath command.task disk)
    (hapart : Apart parse surroundings storePath command.task disk)
    (hcall : command.task.call? parse surroundings.tokens disk = some call)
    (hafter : (run surroundings arguments disk).2 = after) :
    History parse storePath start begun after (ledger.after call) := by
  have hran := earlier.ran surroundings hmappers hread hshared hundisturbed hapart
  rw [hafter, Ledger.afterTask_of_call ledger hcall] at hran
  exact hran

/-! ## Calls and the ledger -/

/-- The bookmark file has what the ledger has. -/
def Follows (storePath : String) (disk : FileTree) (ledger : Ledger) : Prop :=
  ∃ store, Store.load disk storePath = .ok store ∧ store.bookmarks.color? = ledger

theorem color?_change {bookmarks : Bookmarks} {call : StoreCall} {change : Change}
    (h : call.change? bookmarks = some change) :
    change.bookmarks.color? = Ledger.after bookmarks.color? call := by
  funext key id
  cases call with
  | read file id => cases h
  | entries file => cases h
  | set file id color =>
    cases h
    exact Bookmarks.color?_set bookmarks _ _ _ _ _
  | purge file valid =>
    cases h
    by_cases hkey : key = file
    · subst hkey
      rw [Bookmarks.color?, Bookmarks.ofFile_purge_self, Dictionary.find?_filterKeys,
        ← Bookmarks.color?]
      by_cases hid : id ∈ valid <;> simp [Ledger.after, hid]
    · rw [Bookmarks.color?, Bookmarks.ofFile, Bookmarks.find?_purge_of_ne _ _ hkey,
        ← Bookmarks.ofFile, ← Bookmarks.color?]
      simp [Ledger.after, hkey]
  | clear file =>
    cases h
    rw [Bookmarks.clear, Bookmarks.color?, Bookmarks.ofFile, Dictionary.find?_erase]
    by_cases hkey : key = file
    · simp [Ledger.after, hkey]
    · simp [Ledger.after, hkey, Bookmarks.color?, Bookmarks.ofFile]

theorem color?_answer (store : Store) (disk : FileTree) (call : StoreCall) :
    (store.answer disk call).2.1.bookmarks.color? = Ledger.after store.bookmarks.color? call := by
  cases hchange : call.change? store.bookmarks with
  | none =>
    rw [(Store.answer_of_no_change hchange disk).1]
    cases call with
    | read file id => rfl
    | entries file => rfl
    | set file id color => cases hchange
    | purge file valid => cases hchange
    | clear file => cases hchange
  | some change =>
    rw [(Store.answer_of_change hchange disk).1, Store.apply_bookmarks, color?_change hchange]

/-- **One call.** The file follows the ledger if the call does not fail. -/
theorem Follows.answer {storePath : String} {disk : FileTree} {store : Store}
    (hload : Store.load disk storePath = .ok store) {call : StoreCall}
    (hsaved : (store.answer disk call).1.isFailedWrite = false) :
    Follows storePath (store.answer disk call).2.2
      (Ledger.after store.bookmarks.color? call) := by
  -- A store that was opened this moment has nothing that its file does not have.
  have hopened : OnFile storePath store disk false :=
    ⟨Store.path_of_load hload, store, hload, fun _ _ => rfl⟩
  have hsettled : call.pendingAfter store disk false = false := by
    rw [StoreCall.pendingAfter, hsaved, if_neg Bool.false_ne_true, ite_self]
  obtain ⟨kept, hkept, hsame⟩ := (hopened.answer call).opens
  refine ⟨kept, hkept, ?_⟩
  funext key id
  rw [← color?_answer store disk call, Bookmarks.color?, hsame hsettled key, Bookmarks.color?]

/-! ## Tasks -/

theorem openStore_of_load {disk : FileTree} {storePath : String} {store : Store}
    (hload : Store.load disk storePath = .ok store) : openStore disk storePath = .ok store := by
  rw [openStore, hload]

/-- What is written elsewhere does not change what the bookmark file holds. -/
theorem load_of_write {disk after : FileTree} {path content storePath : String}
    (hwrite : disk.write path content = .ok after)
    (hapart : after.canonical? path ≠ after.canonical? storePath) :
    Store.load after storePath = Store.load disk storePath := by
  obtain ⟨hexists, hread⟩ := FileTree.read_congr fun _ => FileTree.find_write_iff hwrite hapart
  rw [Store.load, Store.load, hexists]
  split
  · rename_i hthere
    rw [hread hthere]
  · rfl

section Opened

variable {surroundings : Surroundings} {request : OutlineRequest} {storePath : String}
  {task : Task} {disk : FileTree} {store : Store}

/-- **An outline that can be made** drops the bookmarks that belong to no member and then
writes, if it is told where. -/
theorem runOutline_of_members (hmappers : surroundings.mappers = factoryWith parse)
    (hload : Store.load disk storePath = .ok store) {key : String} {ids : List String}
    (hmembers : request.members? parse surroundings.tokens disk = some (key, ids)) :
    ∃ outline purged, purged = (store.purge disk key ids).2.2
      ∧ ((request.output = none
          ∧ runOutline surroundings request storePath disk
            = (.ok (Report.render outline request.format ++ "\n"), purged))
        ∨ ∃ path, request.output = some path
          ∧ ((∃ after, purged.write path (Report.render outline request.format) = .ok after
              ∧ runOutline surroundings request storePath disk = (.ok "", after))
            ∨ runOutline surroundings request storePath disk = (.error .write, purged))) := by
  rw [OutlineRequest.members?] at hmembers
  obtain ⟨file, hfile, hmembers⟩ := Option.bind_eq_some_iff.1 hmembers
  obtain ⟨options, hoptions, hmembers⟩ := Option.bind_eq_some_iff.1 hmembers
  obtain ⟨found, hids, hmembers⟩ := Option.bind_eq_some_iff.1 hmembers
  cases hmembers
  -- The options are read once for `members?` and once by the command, from the same disk.
  cases hread : request.options disk with
  | error failure =>
    rw [hread] at hoptions
    cases hoptions
  | ok options =>
    obtain ⟨outline, world, hpurged, hmade⟩ := generate_of_memberIds? hmappers hids options store
    refine ⟨outline, world.disk, hpurged, ?_⟩
    rw [runOutline, hfile]
    dsimp only
    rw [hread, openStore_of_load hload]
    dsimp only [bind, Except.bind, pure, Except.pure]
    rw [hmade]
    dsimp only
    cases request.output with
    | none => exact .inl ⟨rfl, rfl⟩
    | some path =>
      refine .inr ⟨path, rfl, ?_⟩
      dsimp only
      cases hwrite : world.disk.write path (Report.render outline request.format) with
      | ok after => exact .inl ⟨after, rfl, rfl⟩
      | error error => exact .inr rfl

/-- **An outline that cannot be made** leaves the disk alone, for whatever reason it fails. -/
theorem runOutline_of_no_members (hmappers : surroundings.mappers = factoryWith parse)
    (hload : Store.load disk storePath = .ok store)
    (hmembers : request.members? parse surroundings.tokens disk = none) :
    ∃ failure, runOutline surroundings request storePath disk = (.error failure, disk) := by
  cases hfile : request.file with
  | none => exact ⟨.noFile, by rw [runOutline, hfile]⟩
  | some file =>
    cases hread : request.options disk with
    | error failure =>
      refine ⟨failure, ?_⟩
      rw [runOutline, hfile]
      dsimp only
      rw [hread]
      rfl
    | ok options =>
      have hids : memberIds? parse surroundings.tokens disk (sourceKey disk file) = none := by
        rw [OutlineRequest.members?, hfile, hread] at hmembers
        simp only [Except.toOption, Option.bind_eq_bind, Option.bind_some,
          Option.bind_eq_none_iff] at hmembers
        refine Option.eq_none_iff_forall_ne_some.2 fun ids hids => ?_
        exact absurd (hmembers ids hids) (Option.some_ne_none _)
      have hcases := surroundings.generator.generate_cases (.file (sourceKey disk file))
        options ⟨disk, store, ()⟩
      rw [runOutline, hfile]
      dsimp only
      rw [hread, openStore_of_load hload]
      dsimp only [bind, Except.bind, pure, Except.pure]
      rcases hcases with hnone | ⟨made, -⟩ | ⟨_, message, _, -, hfail⟩
      · exact ⟨_, by rw [hnone]⟩
      · -- An outline would have members.
        have hsome := memberIds?_eq_some hmappers made
        rw [hids] at hsome
        cases hsome
      · exact ⟨_, by rw [hfail]⟩

/-- An outline can be read as bookmarks, but it has no field for them. -/
theorem parse?_outline (outline : Outline) :
    Bookmarks.parse? (Report.render outline .json) = some .empty := by
  have hfields : outline.fields.filter (fun field => field.1 == "files") = [] := by
    rw [List.filter_eq_nil_iff]
    simp only [Outline.fields, Json.nonempty_eq_optional, List.forall_mem_append,
      Json.forall_mem_optional]
    simp
  rw [Report.render, Outline.toJson, Bookmarks.parse?_pretty outline.within_toJson.writable,
    Bookmarks.ofJson?, hfields]

/-- **An outline over the bookmark file** ends well, and no bookmarks are left for any file. -/
theorem load_of_output (hmappers : surroundings.mappers = factoryWith parse)
    (hload : Store.load disk storePath = .ok store)
    (hmembers : request.members? parse surroundings.tokens disk ≠ none)
    (houtput : request.output = some storePath) (hformat : request.format = .json)
    (hwritten : (runOutline surroundings request storePath disk).1 ≠ .error .write) :
    ∃ after, runOutline surroundings request storePath disk = (.ok "", after)
      ∧ Store.load after storePath = .ok { path := some storePath } := by
  obtain ⟨⟨key, ids⟩, hfound⟩ := Option.ne_none_iff_exists'.1 hmembers
  obtain ⟨outline, purged, -, ⟨hprinted, -⟩ | ⟨path, hpath, ⟨after, hwrite, hrun⟩ | hrun⟩⟩ :=
    runOutline_of_members hmappers hload hfound
  · rw [houtput] at hprinted
    cases hprinted
  · rw [houtput] at hpath
    cases hpath
    rw [hformat] at hwrite
    exact ⟨after, hrun, Store.load_of_find (FileTree.find_writeNode FileNode.noConfusion hwrite)
      (parse?_outline outline)⟩
  · exact absurd (by rw [hrun]) hwritten

theorem Undisturbed.isFailedWrite (h : Undisturbed parse surroundings storePath task disk)
    (hload : Store.load disk storePath = .ok store) {call : StoreCall}
    (hcall : task.call? parse surroundings.tokens disk = some call) :
    (store.answer disk call).1.isFailedWrite = false := by
  have hsaved := h.saved
  rw [Task.isSaved, hload] at hsaved
  dsimp only at hsaved
  rw [hcall, Option.map_some, Option.getD_some, Bool.not_eq_true'] at hsaved
  exact hsaved

/-- A change that is saved is a task that is done. -/
theorem changeBookmarks_of_ok {failure : Failure} {change : Change}
    (h : ∀ error, (store.apply disk change).1 ≠ .error error) :
    changeBookmarks failure (store.apply disk change)
      = (.ok "", (store.apply disk change).2.2) := by
  rcases store.apply_cases disk change with ⟨-, after, -, heq⟩ | ⟨error, heq⟩ | ⟨-, heq⟩
  · rw [heq]
    rfl
  · exact absurd (by rw [heq]) (h error)
  · rw [heq]
    rfl

/-- **A task that comes to a call** is done, and leaves the bookmark file as the call does. -/
theorem runTask_of_call (hmappers : surroundings.mappers = factoryWith parse)
    (hload : Store.load disk storePath = .ok store) {call : StoreCall}
    (hcall : task.call? parse surroundings.tokens disk = some call)
    (hundisturbed : Undisturbed parse surroundings storePath task disk)
    (hapart : Apart parse surroundings storePath task disk) :
    ∃ printed after, runTask surroundings storePath task disk = (.ok printed, after)
      ∧ Store.load after storePath = Store.load (store.answer disk call).2.2 storePath := by
  have hsaved := hundisturbed.isFailedWrite hload hcall
  -- Whatever the call changes, its change is applied without an error.
  have hworks : ∀ change, call.change? store.bookmarks = some change →
      ∀ error, (store.apply disk change).1 ≠ .error error := by
    intro change hchange error herror
    rw [(Store.answer_of_change hchange disk).2.2 ⟨error, herror⟩] at hsaved
    cases hsaved
  cases task with
  | setBookmark file id color =>
    cases hcall
    refine ⟨"", _, ?_, rfl⟩
    rw [runTask, openStore_of_load hload]
    exact changeBookmarks_of_ok (hworks _ rfl)
  | clearBookmarks file =>
    cases hcall
    refine ⟨"", _, ?_, rfl⟩
    rw [runTask, openStore_of_load hload]
    exact changeBookmarks_of_ok (hworks _ rfl)
  | listBookmarks file =>
    cases hcall
    refine ⟨listing (store.bookmarks.ofFile (sourceKey disk file)), disk, ?_, rfl⟩
    rw [runTask, openStore_of_load hload]
  | outline request =>
    obtain ⟨⟨key, ids⟩, hmembers, rfl⟩ := Option.map_eq_some_iff.1 hcall
    have hwritten := hundisturbed.written
    have hplaces := hapart request
    rw [runTask] at hwritten hplaces ⊢
    obtain ⟨outline, purged, hpurged, ⟨-, hrun⟩ | ⟨path, houtput, ⟨after, hwrite, hrun⟩ | hrun⟩⟩ :=
      runOutline_of_members hmappers hload hmembers
    · exact ⟨_, purged, hrun, by rw [hpurged]; rfl⟩
    · -- The output comes after the purge, on the disk as the purge left it.
      have hother := hplaces path rfl houtput (by rw [hmembers]; exact Option.some_ne_none _)
      rw [hrun] at hother
      refine ⟨_, after, hrun, ?_⟩
      rw [load_of_write hwrite hother, hpurged]
      rfl
    · exact absurd (by rw [hrun]) hwritten

/-- **A task that fails** comes to nothing. -/
theorem runTask_of_no_call (hmappers : surroundings.mappers = factoryWith parse)
    (hload : Store.load disk storePath = .ok store)
    (hcall : task.call? parse surroundings.tokens disk = none) :
    ∃ failure, runTask surroundings storePath task disk = (.error failure, disk) := by
  cases task with
  | setBookmark file id color => cases hcall
  | clearBookmarks file => cases hcall
  | listBookmarks file => cases hcall
  | outline request =>
    rw [runTask]
    exact runOutline_of_no_members hmappers hload (Option.map_eq_none_iff.1 hcall)

end Opened

/-- What a command does is what its task does. -/
theorem run_eq {surroundings : Surroundings} {arguments : List String} {command : Command}
    {storePath : String} (hread : read arguments = .ok command)
    (hshared : command.bookmarks.getD surroundings.store = storePath) (disk : FileTree) :
    (run surroundings arguments disk).2 = (runTask surroundings storePath command.task disk).2
      ∧ (∀ printed, (runTask surroundings storePath command.task disk).1 = .ok printed →
          (run surroundings arguments disk).1 = { printed := printed })
      ∧ ∀ failure, (runTask surroundings storePath command.task disk).1 = .error failure →
          (run surroundings arguments disk).1
            = { code := 1, failure := some failure.message } := by
  subst hshared
  rw [run, hread]
  dsimp only
  rcases runTask surroundings (command.bookmarks.getD surroundings.store) command.task disk with
    ⟨failure | printed, after⟩
  · exact ⟨rfl, nofun, fun _ h => by cases h; rfl⟩
  · exact ⟨rfl, fun _ h => by cases h; rfl, nofun⟩

/-- **A list** shows what is on file and changes nothing. -/
theorem run_list {surroundings : Surroundings} {arguments : List String} {command : Command}
    {storePath file : String} {disk : FileTree} {store : Store}
    (hload : Store.load disk storePath = .ok store) (hread : read arguments = .ok command)
    (hshared : command.bookmarks.getD surroundings.store = storePath)
    (htask : command.task = .listBookmarks file) :
    run surroundings arguments disk
      = ({ printed := listing (store.bookmarks.ofFile (sourceKey disk file)) }, disk) := by
  have htaskrun : runTask surroundings storePath command.task disk
      = (.ok (listing (store.bookmarks.ofFile (sourceKey disk file))), disk) := by
    rw [htask, runTask, openStore_of_load hload]
  obtain ⟨hdisk, hdone, -⟩ := run_eq hread hshared disk
  rw [htaskrun] at hdisk hdone
  exact Prod.ext (hdone _ rfl) hdisk

/-! ## Histories -/

/-- **One command.** The bookmark file goes on following the ledger, and the command ends well
if and only if its task comes to something. -/
theorem Follows.run {storePath : String} {disk : FileTree} {ledger : Ledger}
    (h : Follows storePath disk ledger) {surroundings : Surroundings}
    (hmappers : surroundings.mappers = factoryWith parse) {arguments : List String}
    {command : Command} (hread : read arguments = .ok command)
    (hshared : command.bookmarks.getD surroundings.store = storePath)
    (hundisturbed : Undisturbed parse surroundings storePath command.task disk)
    (hapart : Apart parse surroundings storePath command.task disk) :
    Follows storePath (run surroundings arguments disk).2
        (ledger.afterTask parse surroundings.tokens disk command.task)
      ∧ ((run surroundings arguments disk).1.code = 0
        ↔ command.task.call? parse surroundings.tokens disk ≠ none) := by
  obtain ⟨store, hload, rfl⟩ := h
  obtain ⟨hdisk, hdone, hfailed⟩ := run_eq hread hshared disk
  rw [hdisk]
  cases hcall : command.task.call? parse surroundings.tokens disk with
  | some call =>
    obtain ⟨printed, after, hrun, hsame⟩ := runTask_of_call hmappers hload hcall hundisturbed hapart
    obtain ⟨kept, hkept, hcolors⟩ :=
      Follows.answer hload (hundisturbed.isFailedWrite hload hcall)
    rw [hdone printed (by rw [hrun]), hrun, Ledger.afterTask_of_call _ hcall]
    exact ⟨⟨kept, hsame.trans hkept, hcolors⟩, by simp⟩
  | none =>
    obtain ⟨failure, hrun⟩ := runTask_of_no_call hmappers hload hcall
    rw [hfailed failure (by rw [hrun]), hrun, Ledger.afterTask, hcall]
    exact ⟨⟨store, hload, rfl⟩, by simp⟩

/-- **All commands**, by induction on the history. -/
theorem History.follows {storePath : String} {start disk : FileTree} {begun ledger : Ledger}
    (history : History parse storePath start begun disk ledger)
    (hstart : Follows storePath start begun) : Follows storePath disk ledger := by
  induction history with
  | start => exact hstart
  | ran earlier surroundings hmappers hread hshared hundisturbed hapart ih =>
    exact (ih.run hmappers hread hshared hundisturbed hapart).1
  | elsewhere earlier huntouched ih =>
    obtain ⟨store, hload, hcolors⟩ := ih
    exact ⟨store, huntouched.trans hload, hcolors⟩

/-- **A list of bookmarks shows the ledger**, however C# is read. After any history of commands
that share a bookmark file, a list prints the bookmarks that the ledger has for the file, in the
order of identities, and changes nothing. Every other command ends well if and only if its task
comes to something for the ledger to note: an outline does not if it is given no file, its
options cannot be read, or its source has no language or cannot be read. -/
theorem bookmark_list_prints_ledger (parse : String → CSharp.SyntaxNode) {storePath : String}
    {start disk : FileTree} {store : Store} {ledger : Ledger}
    (hload : Store.load start storePath = .ok store)
    (history : History parse storePath start store.bookmarks.color? disk ledger) :
    (∀ surroundings arguments command file, read arguments = .ok command →
      command.bookmarks.getD surroundings.store = storePath →
      command.task = .listBookmarks file →
      ∃ entries, Lists (ledger (sourceKey disk file)) entries
        ∧ run surroundings arguments disk
          = ({ printed := String.join
                (entries.map fun entry => entry.2 ++ "\t" ++ entry.1 ++ "\n") }, disk))
    ∧ ∀ surroundings arguments command, surroundings.mappers = factoryWith parse →
      read arguments = .ok command →
      command.bookmarks.getD surroundings.store = storePath →
      Undisturbed parse surroundings storePath command.task disk →
      Apart parse surroundings storePath command.task disk →
      ((run surroundings arguments disk).1.code = 0
        ↔ command.task.call? parse surroundings.tokens disk ≠ none) := by
  have hfollows := history.follows ⟨store, hload, rfl⟩
  refine ⟨?_, fun surroundings arguments command hmappers hread hshared hundisturbed hapart =>
    (hfollows.run hmappers hread hshared hundisturbed hapart).2⟩
  intro surroundings arguments command file hread hshared htask
  obtain ⟨kept, hkept, rfl⟩ := hfollows
  exact ⟨_, lists_entries (kept.bookmarks.ofFile (sourceKey disk file)),
    run_list hkept hread hshared htask⟩

/-- A disk with a class, in a file that has a second name by a link, and a function. -/
def sampleDisk : FileTree where
  home := "/w"
  nodes := [(["w", "a.cs"], .text "class A \x7b \x7d\n"),
    (["w", "a.py"], .text "def f():\n    pass\n")]
  links := [(["w", "link.cs"], "a.cs")]

/-- The same disk with bookmarks on file. -/
def sampleDisk.marked (bookmarks : Bookmarks) : FileTree :=
  { sampleDisk with nodes := (["w", "b.json"], .text bookmarks.render) :: sampleDisk.nodes }

/-- The class as it is read. -/
def sampleTree : CSharp.SyntaxNode :=
  .node { kind := .unit, start := {}, stop := { row := 1 } }
    [.node { kind := .classDeclaration, start := {}, stop := { column := 11 } }
      [.node { kind := .identifier, role := some .name, start := { column := 6 },
               stop := { column := 7 }, text := "A" } [],
        .node { kind := .body, role := some .body, start := { column := 8 },
                stop := { column := 11 } } []]]

/-- Surroundings in which nothing is special. -/
def sampleSurroundings : Surroundings where
  dataDirectory := "/w"
  tokens := fun _ => "token"
  stamp := { timestamp := "" }

/-- The class is marked through the link, and something that is not there by the other name.
Then an outline hides the class, and its bookmark is all that is left under both names. -/
theorem bookmark_list_prints_ledger_after_outline :
    let surroundings := { sampleSurroundings with mappers := factoryWith fun _ => sampleTree }
    Store.load sampleDisk "b.json" = .ok { path := some "b.json" }
    ∧ ∃ disk ledger,
      History (fun _ => sampleTree) "b.json" sampleDisk (Bookmarks.color? .empty) disk ledger
      ∧ run surroundings ["bookmark", "list", "a.cs", "--bookmarks", "b.json"] disk
        = ({ printed := "red\tA\n" }, disk)
      ∧ run surroundings ["bookmark", "list", "link.cs", "--bookmarks", "b.json"] disk
        = ({ printed := "red\tA\n" }, disk) := by
  intro surroundings
  let red := (Bookmarks.set .empty "/w/a.cs" "A" "red").bookmarks
  let both := (Bookmarks.set red "/w/a.cs" "gone" "blue").bookmarks
  let begun : Ledger := Bookmarks.color? .empty
  let noted : Ledger := begun.after (.set "/w/a.cs" "A" "red")
  let twice : Ledger := noted.after (.set "/w/a.cs" "gone" "blue")
  let ledger : Ledger := twice.after (.purge "/w/a.cs" ["A"])
  have hload : Store.load sampleDisk "b.json" = .ok { path := some "b.json" } := by
    rw [Store.load, if_neg (by decide +kernel)]
  have hnothing : History (fun _ => sampleTree) "b.json" sampleDisk begun sampleDisk begun :=
    .start
  have hred := hnothing.ran_call surroundings rfl
    (show read ["bookmark", "set", "link.cs", "A", "red", "--bookmarks", "b.json"]
      = .ok { task := .setBookmark "link.cs" "A" "red", bookmarks := some "b.json" } from rfl)
    rfl ⟨by decide +kernel, by decide +kernel⟩ (fun _ _ htask => by cases htask)
    (show _ = some (.set "/w/a.cs" "A" "red") by decide +kernel)
    (show _ = sampleDisk.marked red by decide +kernel)
  have hboth := hred.ran_call surroundings rfl
    (show read ["bookmark", "set", "a.cs", "gone", "blue", "--bookmarks", "b.json"]
      = .ok { task := .setBookmark "a.cs" "gone" "blue", bookmarks := some "b.json" } from rfl)
    rfl ⟨by decide +kernel, by decide +kernel⟩ (fun _ _ htask => by cases htask)
    (show _ = some (.set "/w/a.cs" "gone" "blue") by decide +kernel)
    (show _ = sampleDisk.marked both by decide +kernel)
  have hpurged := hboth.ran_call surroundings rfl
    (show read ["link.cs", "--hide", "classes", "--bookmarks", "b.json"]
      = .ok { task := .outline { file := some "link.cs", hidden := [.classes] },
              bookmarks := some "b.json" } from rfl)
    rfl ⟨by decide +kernel, by decide +kernel⟩
    (fun _ _ htask houtput => by cases htask; cases houtput)
    (show _ = some (.purge "/w/a.cs" ["A"]) by decide +kernel)
    (show _ = sampleDisk.marked red by decide +kernel)
  -- Of the two entries the outline has struck the one that belongs to no member.
  have hleft : Lists (ledger "/w/a.cs") [("A", "red")] := by
    refine lists_singleton rfl fun other hother => ?_
    simp [ledger, twice, noted, begun, Bookmarks.color?, Ledger.after, hother]
  have hprints := (bookmark_list_prints_ledger (fun _ => sampleTree) hload hpurged).1 surroundings
  obtain ⟨byName, hbyName, hfirst⟩ :=
    hprints ["bookmark", "list", "a.cs", "--bookmarks", "b.json"] _ "a.cs" rfl rfl rfl
  obtain ⟨byLink, hbyLink, hsecond⟩ :=
    hprints ["bookmark", "list", "link.cs", "--bookmarks", "b.json"] _ "link.cs" rfl rfl rfl
  have hname : sourceKey (sampleDisk.marked red) "a.cs" = "/w/a.cs" := by decide +kernel
  have hlink : sourceKey (sampleDisk.marked red) "link.cs" = "/w/a.cs" := by decide +kernel
  rw [hname] at hbyName
  rw [hlink] at hbyLink
  rw [hbyName.unique hleft] at hfirst
  rw [hbyLink.unique hleft] at hsecond
  exact ⟨hload, _, _, hpurged, hfirst, hsecond⟩

/-- **A bookmark file that is also the output** loses its bookmarks without a failure. The
function is marked, and the outline with its bookmark in it is written over the bookmark file.
Nothing is reported, and the ledger still has the bookmark, but a list shows none. -/
theorem bookmark_list_lost_to_output :
    let marking := Task.setBookmark "a.py" "f()" "red"
    let outlining := Task.outline { file := some "a.py", output := some "b.json" }
    let red := (Bookmarks.set .empty "/w/a.py" "f()" "red").bookmarks
    let marked := sampleDisk.marked red
    let begun : Ledger := Bookmarks.color? .empty
    let noted := begun.afterTask CSharp.parse sampleSurroundings.tokens sampleDisk marking
    let ledger := noted.afterTask CSharp.parse sampleSurroundings.tokens marked outlining
    run sampleSurroundings ["bookmark", "set", "a.py", "f()", "red", "--bookmarks", "b.json"]
        sampleDisk = ({}, marked)
      ∧ Undisturbed CSharp.parse sampleSurroundings "b.json" marking sampleDisk
      ∧ Undisturbed CSharp.parse sampleSurroundings "b.json" outlining marked
      ∧ Lists (ledger "/w/a.py") [("f()", "red")]
      ∧ ∃ outlined,
        run sampleSurroundings ["a.py", "--bookmarks", "b.json", "--output", "b.json"] marked
          = ({}, outlined)
        ∧ run sampleSurroundings ["bookmark", "list", "a.py", "--bookmarks", "b.json"] outlined
          = ({}, outlined) := by
  intro marking outlining red marked begun noted ledger
  have hload : Store.load marked "b.json" = .ok _ :=
    Store.load_of_find (by decide +kernel) (Bookmarks.parse?_render red)
  have hundisturbed : Undisturbed CSharp.parse sampleSurroundings "b.json" outlining marked :=
    ⟨by decide +kernel, by decide +kernel⟩
  -- The outline is not evaluated: that it is one is enough to know what a list makes of it.
  obtain ⟨outlined, hran, hlost⟩ :=
    load_of_output standardFactory_eq hload (by decide +kernel) rfl rfl hundisturbed.written
  have hnoted : noted = begun.after (.set "/w/a.py" "f()" "red") :=
    begun.afterTask_of_call (by decide +kernel)
  have hledger : ledger = noted.after (.purge "/w/a.py" ["f()"]) :=
    noted.afterTask_of_call (by decide +kernel)
  refine ⟨by decide +kernel, ⟨by decide +kernel, by decide +kernel⟩, hundisturbed, ?_, outlined,
    ?_, ?_⟩
  · rw [hledger, hnoted]
    refine lists_singleton rfl fun other hother => ?_
    simp [Ledger.after, hother]
  · have hread : read ["a.py", "--bookmarks", "b.json", "--output", "b.json"]
        = .ok { task := outlining, bookmarks := some "b.json" } := rfl
    have hshared : (some "b.json").getD sampleSurroundings.store = "b.json" := rfl
    obtain ⟨hdisk, hdone, -⟩ := run_eq hread hshared marked
    rw [runTask, hran] at hdisk hdone
    exact Prod.ext (hdone "" rfl) hdisk
  · rw [run_list hlost rfl rfl rfl]
    rfl

end CommandLine

end SourceOutline
