/-
Display options change nothing but what is displayed.

Two requests for the same source may differ in every option. All but one are looked at
after identities and colors are settled, and leave members out or change their order. The
remaining one, how parameters are shown, goes into the mapper. The module on signatures
says what comes out: the same members, up to the `shown` field. That field is no part of
a key, a line, a name or an ancestry, so it makes no difference to where markers go, which
identities are given and which colors are joined: every stage commutes with changing it.

So the two requests have the same forest up to how parameters are shown
(`Completion.forest_first`). They drop the same bookmarks, since these depend on the
identities in the forest. And two rows with one identity come from one entry, since
identities are distinct.

Members without a key get a token by chance. Without them tokens play no part, so the two
requests may be made by generators with different tokens.
-/
import SourceOutline.Proofs.Identity
import SourceOutline.Proofs.Signatures
import SourceOutline.Proofs.Splice

set_option autoImplicit false

namespace SourceOutline

/-! ## Placing markers -/

section Placement

variable (shown : Bool)

theorem Member.children_withShown (member : Member) :
    (member.withShown shown).children = member.children.map (Member.withShown shown) :=
  member.children_mapEntries _

theorem Member.isContainer_withShown (member : Member) :
    (member.withShown shown).isContainer = member.isContainer := by
  rw [Member.isContainer, Member.entry_withShown]
  rfl

theorem Member.under_withShown (path : Ancestry) (member : Member) :
    (member.withShown shown).under path = (member.under path).withShown shown := by
  cases member with
  | node entry children => rfl

theorem Member.isOwner_withShown (startLine : Nat) (path : Ancestry) (member : Member) :
    (member.withShown shown).isOwner startLine path = member.isOwner startLine path := by
  rw [Member.isOwner, Member.isContainer_withShown, Member.startLine_withShown,
    Member.entry_withShown]
  rfl

theorem Member.reachesOver_withShown (line : Nat) (member : Member) :
    (member.withShown shown).reachesOver line = member.reachesOver line := by
  have hbody : (member.withShown shown).bodyLines? = member.bodyLines? := by
    rw [Member.bodyLines?, Member.children_withShown, Member.lastLineOf?_withShown,
      Member.startLine_withShown, Member.entry_withShown]
    rfl
  rw [Member.reachesOver, hbody, Member.reachesOver]

theorem Forest.locate_withShown (forest : Forest) (spans : List NamespaceSpan) (line : Nat) :
    Forest.locate (forest.map (Member.withShown shown)) spans line = forest.locate spans line := by
  have hinnermost : Forest.innermost? (forest.map (Member.withShown shown)) line
      = (forest.innermost? line).map (Entry.withShown shown) := by
    have hlast : ∀ entries : List Entry,
        lastMax? Entry.notDeeper (entries.map (Entry.withShown shown))
          = (lastMax? Entry.notDeeper entries).map (Entry.withShown shown) :=
      lastMax?_map fun _ _ => rfl
    have hfilter : (fun member : Member => member.isContainer && member.reachesOver line)
        ∘ Member.withShown shown
        = fun member => member.isContainer && member.reachesOver line := by
      funext member
      rw [Function.comp_apply, Member.isContainer_withShown, Member.reachesOver_withShown]
    rw [Forest.innermost?, List.filter_map, hfilter, List.map_map, Forest.innermost?, ← hlast,
      List.map_map]
    congr 1
    exact List.map_congr_left fun member _ => member.entry_withShown shown
  rw [Forest.locate, hinnermost, Forest.locate]
  cases forest.innermost? line <;> rfl

theorem Forest.insertByLine_withShown (member : Member) (forest : Forest) :
    Forest.insertByLine (member.withShown shown) (forest.map (Member.withShown shown))
      = (forest.insertByLine member).map (Member.withShown shown) := by
  induction forest with
  | nil => rfl
  | cons other rest ih =>
    rw [List.map_cons, Forest.insertByLine, Member.startLine_withShown,
      Member.startLine_withShown, Forest.insertByLine]
    split
    · rw [ih, List.map_cons]
    · rfl

theorem Forest.insertInside?_withShown (startLine : Nat) (path : Ancestry) (marker : Member)
    (forest : Forest) :
    Forest.insertInside? startLine path (marker.withShown shown)
        (forest.map (Member.withShown shown))
      = (forest.insertInside? startLine path marker).map (List.map (Member.withShown shown)) := by
  induction forest with
  | nil => rfl
  | cons member rest ih =>
    rw [List.map_cons, Forest.insertInside?, Member.isOwner_withShown, Forest.insertInside?]
    split
    · rw [Option.map_some, List.map_cons, Member.withShown_node, Member.under_withShown,
        Member.children_withShown, Forest.insertByLine_withShown, Member.entry_withShown]
    · rw [ih, Option.map_map, Option.map_map]
      rfl

theorem Forest.place_withShown (marker : Member) (placement : Placement) (forest : Forest) :
    Forest.place (forest.map (Member.withShown shown)) (marker.withShown shown) placement
      = (forest.place marker placement).map (Member.withShown shown) := by
  cases placement with
  | topLevel path =>
    rw [Forest.place, Member.under_withShown, Forest.insertByLine_withShown, Forest.place]
  | inside startLine path =>
    rw [Forest.place, Forest.insertInside?_withShown, Forest.place]
    cases forest.insertInside? startLine path marker with
    | none =>
      dsimp only [Option.map_none]
      rw [Member.under_withShown, Forest.insertByLine_withShown]
    | some forest' => rfl

/-- Placing markers that have no parameters. -/
theorem Forest.spliceWith_withShown {markers : List Member}
    (hmarkers : ∀ marker ∈ markers, marker.withShown shown = marker)
    (spans : List NamespaceSpan) (stack : List Placement) (forest : Forest) :
    Forest.spliceWith spans stack (forest.map (Member.withShown shown)) markers
      = (forest.spliceWith spans stack markers).map (Member.withShown shown) := by
  induction markers generalizing stack forest with
  | nil =>
    rw [Forest.spliceWith, Forest.spliceWith]
  | cons marker rest ih =>
    obtain ⟨hmarker, hrest⟩ := List.forall_mem_cons.1 hmarkers
    have hplace : ∀ placement, Forest.place (forest.map (Member.withShown shown)) marker placement
        = (forest.place marker placement).map (Member.withShown shown) := by
      intro placement
      rw [← Forest.place_withShown, hmarker]
    unfold Forest.spliceWith
    simp only [Forest.locate_withShown, hplace, ih hrest]
    split
    · split <;> rfl
    · rfl

end Placement

/-- Markers have no parameters. -/
theorem MarkerStyle.withShown_of_mem_scanLines (shown : Bool) (style : MarkerStyle)
    (opened : List String) (last : Nat) (lines : List (Nat × List Char)) :
    ∀ marker ∈ style.scanLines opened last lines, marker.withShown shown = marker := by
  intro marker hmarker
  obtain ⟨mark, line, column, rfl⟩ := exists_ofMarker_of_mem_scanLines marker hmarker
  rfl

/-! ## Identities -/

theorem Entry.key_withShown (shown : Bool) (entry : Entry) :
    (entry.withShown shown).key = entry.key := by
  have hparameters : (entry.withShown shown).parameterKey = entry.parameterKey := by
    rw [Entry.parameterKey, Entry.withShown, Entry.parameterKey]
    cases entry.signature <;> rfl
  rw [Entry.key, hparameters, Entry.key]
  rfl

mutual

/-- A walk over members that all have a key gives the same identities, whatever the tokens
are and however parameters are shown. -/
theorem Member.assignIds_withShown (shown : Bool) (tokens tokens' : Nat → String)
    (taken : List String) :
    (member : Member) → (∀ entry ∈ member.entries, entry.key ≠ "") →
      (member.withShown shown).assignIds tokens' taken
        = ((member.assignIds tokens taken).1.withShown shown, (member.assignIds tokens taken).2)
  | .node entry children, h => by
    rw [Member.entries] at h
    obtain ⟨hentry, hchildren⟩ := List.forall_mem_cons.1 h
    have hentry' : (entry.withShown shown).key ≠ "" := by
      rwa [Entry.key_withShown]
    -- With a key there is no need for a token, and the key is the same in both walks. So the
    -- same identities are taken when the children are reached.
    rw [Member.withShown_node, Member.assignIds, Entry.keyOr_of_ne hentry', Entry.key_withShown,
      Member.assignIds, Entry.keyOr_of_ne hentry]
    simp only [Forest.assignIdsFrom_withShown shown tokens tokens' _ children hchildren,
      Member.withShown_node]
    rfl

theorem Forest.assignIdsFrom_withShown (shown : Bool) (tokens tokens' : Nat → String)
    (taken : List String) :
    (forest : Forest) → (∀ entry ∈ forest.entries, entry.key ≠ "") →
      Forest.assignIdsFrom tokens' taken (forest.map (Member.withShown shown))
        = ((Forest.assignIdsFrom tokens taken forest).1.map (Member.withShown shown),
          (Forest.assignIdsFrom tokens taken forest).2)
  | [], _ => rfl
  | member :: rest, h => by
    rw [Forest.entries] at h
    obtain ⟨hmember, hrest⟩ := List.forall_mem_append.1 h
    rw [List.map_cons, Forest.assignIdsFrom, Forest.assignIdsFrom]
    simp only [Member.assignIds_withShown shown tokens tokens' taken member hmember,
      Forest.assignIdsFrom_withShown shown tokens tokens' _ rest hrest, List.map_cons]

end

/-- Keys can be looked at before or after the walk, since an identity is no part of
them. -/
theorem Forest.key_ne_of_assignIds {tokens : Nat → String} {forest : Forest}
    (h : ∀ entry ∈ (forest.assignIds tokens).entries, entry.key ≠ "") :
    ∀ entry ∈ forest.entries, entry.key ≠ "" := by
  -- The two forests have the same entries once identities are blanked.
  have hwalk := congrArg Forest.entries (Forest.mapEntries_assignIdsFrom
    (f := fun entry => { entry with id := "" }) (fun _ _ => rfl) tokens [] forest)
  rw [Forest.entries_mapEntries, Forest.entries_mapEntries] at hwalk
  intro entry hentry
  have hmem := List.mem_map_of_mem (f := fun entry : Entry => { entry with id := "" }) hentry
  rw [← hwalk] at hmem
  obtain ⟨assigned, hassigned, heq⟩ := List.mem_map.1 hmem
  have hkey := congrArg Entry.key heq
  exact fun hempty => h assigned hassigned (hkey.trans hempty)

/-! ## The members of a source -/

/-- The members of a mapping with their region markers, before they have identities. -/
def Mapping.marked (mapping : Mapping) (style : MarkerStyle) (source : String) : Forest :=
  match mapping.codeStartLine with
  | some line => mapping.members.sortByLine.resolveRegions style source line mapping.spans
  | none => mapping.members.sortByLine

theorem Mapping.identified_eq (mapping : Mapping) (style : MarkerStyle) (source : String)
    (tokens : Nat → String) :
    mapping.identified style source tokens = (mapping.marked style source).assignIds tokens := rfl

theorem Mapping.marked_withShown (shown : Bool) (mapping : Mapping) (style : MarkerStyle)
    (source : String) :
    (mapping.withShown shown).marked style source
      = (mapping.marked style source).map (Member.withShown shown) := by
  have hsorted : (mapping.withShown shown).members.sortByLine
      = mapping.members.sortByLine.map (Member.withShown shown) :=
    Forest.sortByLine_withShown shown mapping.members
  have hstart : (mapping.withShown shown).codeStartLine = mapping.codeStartLine := rfl
  rw [Mapping.marked, hstart, hsorted, Mapping.marked]
  cases mapping.codeStartLine with
  | none => rfl
  | some line =>
    exact Forest.spliceWith_withShown shown
      (MarkerStyle.withShown_of_mem_scanLines shown style [] line _) mapping.spans [] _

/-- **The members of a source** are the same however parameters are shown. -/
theorem Mapping.identified_withShown {mapping : Mapping} {style : MarkerStyle} {source : String}
    {tokens : Nat → String}
    (h : ∀ entry ∈ (mapping.identified style source tokens).entries, entry.key ≠ "")
    (shown : Bool) (tokens' : Nat → String) :
    (mapping.withShown shown).identified style source tokens'
      = (mapping.identified style source tokens).map (Member.withShown shown) := by
  rw [Mapping.identified_eq] at h ⊢
  have hkeys := Forest.key_ne_of_assignIds h
  rw [Mapping.marked_withShown, Forest.assignIds,
    Forest.assignIdsFrom_withShown shown tokens tokens' [] _ hkeys]
  rfl

theorem Forest.entries_withShown (shown : Bool) (forest : Forest) :
    Forest.entries (forest.map (Member.withShown shown))
      = forest.entries.map (Entry.withShown shown) := by
  rw [← Forest.entries_mapEntries, Forest.mapEntries_eq_map]
  rfl

theorem Forest.ids_withShown (shown : Bool) (forest : Forest) :
    Forest.ids (forest.map (Member.withShown shown)) = forest.ids := by
  rw [Forest.ids, Forest.entries_withShown, List.map_map]
  rfl

/-- Colors go by identities. -/
theorem Forest.entries_joinColors_withShown (shown : Bool) (forest : Forest)
    (bookmarks : Bookmarks) (key : Option String) :
    (Forest.joinColors (forest.map (Member.withShown shown)) bookmarks key).entries
      = (forest.joinColors bookmarks key).entries.map (Entry.withShown shown) := by
  cases key with
  | none => exact Forest.entries_withShown shown forest
  | some key =>
    rw [Forest.joinColors, Forest.entries_mapEntries, Forest.entries_withShown, Forest.joinColors,
      Forest.entries_mapEntries, List.map_map, List.map_map]
    rfl

/-! ## Two requests -/

theorem Generator.mapOptions_showSignatures (source : Source) (options options' : Options) :
    mapOptions source options'
      = { mapOptions source options with showSignatures := options'.showSignatures } := by
  rw [mapOptions, mapOptions]
  cases source.componentName? <;> rfl

/-- A source that cannot be read leaves everything as it is. -/
theorem Generator.generate_of_read_error {σ : Type} {generator : Generator σ} {source : Source}
    {world : World σ} {error : FileError} (hread : source.read world.disk = .error error)
    (options : Options) : (generator.generate source options world).2 = world := by
  have hattempt : ∀ language,
      generator.attempt source language options world = (.error (.file error), world) := by
    intro language
    rw [attempt, hread]
  have hretry : ∀ language message made left,
      (generator.retry source language options message made left world).2 = world := by
    intro language message made left
    induction left generalizing message made with
    | zero => rfl
    | succ left ih =>
      rw [retry, hattempt]
      exact ih _ _
  rw [generate]
  split
  · rfl
  · exact hretry _ _ _ _

section Requests

variable {σ : Type} {source : Source} {world : World σ} {options options' : Options}

/-- **The forests of two requests** differ in how parameters are shown, and in nothing
else. -/
theorem Completion.forest_withShown {parse : String → CSharp.SyntaxNode}
    {first second : Generator σ} (hfirst : first.factory = factoryWith parse)
    (hsecond : second.factory = factoryWith parse) (hregistry : second.registry = first.registry)
    (run : Completion first source options world) (run' : Completion second source options' world)
    (hkeys : ∀ entry ∈ run.forest.entries, entry.key ≠ "") :
    run'.forest = run.forest.map (Member.withShown options'.showSignatures) := by
  have hlanguage : second.registry.resolve source.extension = some run.language := by
    rw [hregistry, run.resolved]
  have hforest := run.forest_eq hfirst run.resolved run.read
  rw [hforest] at hkeys ⊢
  rw [run'.forest_eq hsecond hlanguage run.read,
    Generator.mapOptions_showSignatures source options options', Language.mapping_withShown,
    Mapping.identified_withShown hkeys]

/-- An item is that of a member, with its color. -/
theorem Completion.exists_entry_of_mem_items {generator : Generator σ}
    (run : Completion generator source options world) {item : Item} (h : item ∈ run.items) :
    ∃ entry ∈ (run.forest.joinColors world.store.bookmarks source.fileKey?).entries,
      entry.item = item := by
  obtain ⟨rows, hrows, hitems⟩ := Forest.emit_eq_map
    (run.forest.joinColors world.store.bookmarks source.fileKey?).nest options
    run.mapper.encodesContainment
  rw [Completion.items, hitems] at h
  obtain ⟨entry, hentry, rfl⟩ := List.mem_map.1 h
  exact ⟨entry, (Forest.nest_entries_perm _).subset (hrows.subset hentry), rfl⟩

/-- Members of one identity are the same member. -/
theorem Completion.eq_of_id_eq {generator : Generator σ}
    (run : Completion generator source options world) {entry entry' : Entry}
    (h : entry ∈ (run.forest.joinColors world.store.bookmarks source.fileKey?).entries)
    (h' : entry' ∈ (run.forest.joinColors world.store.bookmarks source.fileKey?).entries)
    (hid : entry.id = entry'.id) : entry = entry' := by
  have hdistinct : (run.forest.joinColors world.store.bookmarks source.fileKey?).ids.Nodup := by
    rw [Forest.ids_joinColors]
    exact (Forest.assignIds_distinct generator.tokens _).nodup
  exact List.inj_on_of_nodup_map hdistinct h h' hid

end Requests

/-- **Display options change nothing but what is displayed.** Of two requests for a source,
with any options, any tokens and any number of attempts, both leave the same behind; their
members have the same identities; and items of one identity differ in their titles only. -/
theorem display_options_change_only_titles {σ : Type} (parse : String → CSharp.SyntaxNode)
    (first second : Generator σ) (hfirst : first.factory = factoryWith parse)
    (hsecond : second.factory = factoryWith parse) (hregistry : second.registry = first.registry)
    (source : Source) (options options' : Options) (world : World σ)
    (hkeys : ∀ run : Completion first source options world,
      ∀ entry ∈ run.forest.entries, entry.key ≠ "") :
    (second.generate source options' world).2 = (first.generate source options world).2
    ∧ (∀ (run : Completion first source options world)
        (run' : Completion second source options' world), run'.forest.ids = run.forest.ids)
    ∧ ∀ outline after outline' after',
      first.generate source options world = (.ready outline, after) →
      second.generate source options' world = (.ready outline', after') →
      ∀ item ∈ outline.items, ∀ item' ∈ outline'.items, item'.id = item.id →
        item' = { item with title := item'.title } := by
  have hids : ∀ (run : Completion first source options world)
      (run' : Completion second source options' world), run'.forest.ids = run.forest.ids := by
    intro run run'
    rw [Completion.forest_withShown hfirst hsecond hregistry run run' (hkeys run),
      Forest.ids_withShown]
  refine ⟨?_, hids, ?_⟩
  · cases hread : source.read world.disk with
    | error error =>
      rw [Generator.generate_of_read_error hread, Generator.generate_of_read_error hread]
    | ok text =>
      cases hlanguage : first.registry.resolve source.extension with
      | none =>
        rw [Generator.generate, hregistry, Generator.generate, hlanguage]
      | some language =>
        have hlanguage' : second.registry.resolve source.extension = some language := by
          rw [hregistry, hlanguage]
        rw [Generator.generate_first hfirst hlanguage hread,
          Generator.generate_first hsecond hlanguage' hread]
        dsimp only
        -- What is left behind is a purge of the store that keeps the identities of the forest.
        rw [Completion.worldAfter, hids (.first hfirst hlanguage hread options)]
        rfl
  · intro outline after outline' after' hready hready' item hitem item' hitem' hid
    obtain ⟨run, rfl, -⟩ := Generator.generate_ready hready
    obtain ⟨run', rfl, -⟩ := Generator.generate_ready hready'
    obtain ⟨entry, hentry, rfl⟩ := run.exists_entry_of_mem_items hitem
    obtain ⟨entry', hentry', rfl⟩ := run'.exists_entry_of_mem_items hitem'
    rw [Completion.forest_withShown hfirst hsecond hregistry run run' (hkeys run),
      Forest.entries_joinColors_withShown] at hentry'
    obtain ⟨member, hmember, rfl⟩ := List.mem_map.1 hentry'
    -- The second item is that of a member of the first run, shown in another way. It has the
    -- identity of the first item, so it is the same member.
    rw [← run.eq_of_id_eq hmember hentry hid]
    rfl

/-- A class with a method, once with its parameters and once without, by generators with
different tokens. -/
theorem display_options_change_only_titles_of_method :
    let text := "class A:\n def f(x): pass"
    let source : Source := .text text "py" (some "a.py")
    let generator (token : String) : Generator Unit := {
      registry := Registry.empty.register "py" .python
      factory := standardFactory
      maxAttempts := 1
      tokens := fun _ => token
      stamp := { timestamp := token } }
    let options : Options := { sortMembers := false }
    let options' : Options := { sortMembers := false, showSignatures := false }
    let bookmarks : Bookmarks := .ofList [("a.py", .ofList [("A.f(x)", "red"), ("gone", "blue")])]
    let world : World Unit := ⟨{ home := "/" }, { bookmarks := bookmarks }, ()⟩
    (∀ run : Completion (generator "t") source options world,
      ∀ entry ∈ run.forest.entries, entry.key ≠ "")
    ∧ ((generator "u").generate source options' world).2
      = ((generator "t").generate source options world).2
    ∧ ∃ outline after outline' after',
      (generator "t").generate source options world = (.ready outline, after)
      ∧ (generator "u").generate source options' world = (.ready outline', after')
      ∧ outline.items.map (fun item => (item.id, item.title, item.colorTag))
        = [("A", "A", none), ("A.f(x)", "f(x)", some "red")]
      ∧ outline'.items.map (fun item => (item.id, item.title, item.colorTag))
        = [("A", "A", none), ("A.f(x)", "f(...)", some "red")]
      ∧ ∀ item ∈ outline.items, ∀ item' ∈ outline'.items, item'.id = item.id →
        item' = { item with title := item'.title } := by
  intro text source generator options options' bookmarks world
  have hfactory : ∀ token, (generator token).factory = factoryWith CSharp.parse :=
    fun _ => standardFactory_eq
  have hlanguage : ∀ token,
      (generator token).registry.resolve source.extension = some .python := fun _ => resolve_py
  have hread : source.read world.disk = .ok text := rfl
  have hkeys : ∀ run : Completion (generator "t") source options world,
      ∀ entry ∈ run.forest.entries, entry.key ≠ "" := by
    intro run entry hentry hempty
    rw [run.forest_eq (hfactory "t") (hlanguage "t") hread] at hentry
    have hmem := List.mem_map_of_mem (f := Entry.key) hentry
    rw [hempty] at hmem
    have hall : ((Language.python.mapping CSharp.parse text
        (Generator.mapOptions source options)).identified
          (Language.python.mapperWith CSharp.parse : Mapper Unit).markers text
          (generator "t").tokens).entries.map Entry.key = ["A", "A.f(x)"] := by
      cbv
    rw [hall] at hmem
    exact absurd hmem (by decide)
  obtain ⟨hworld, -, hitems⟩ := display_options_change_only_titles CSharp.parse (generator "t")
    (generator "u") (hfactory "t") (hfactory "u") rfl source options options' world hkeys
  have hready := Generator.generate_first (hfactory "t") (hlanguage "t") hread options
  have hready' := Generator.generate_first (hfactory "u") (hlanguage "u") hread options'
  refine ⟨hkeys, hworld, _, _, _, _, hready, hready', ?_, ?_, hitems _ _ _ _ hready hready'⟩
  · cbv
  · cbv

end SourceOutline
