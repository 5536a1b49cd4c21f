/-
Which blocks of a style sheet an outline lists under a member filter.

Every line that opens a block is a field, and its name is the selector as it is shown: in
full up to 25 characters, and from a longer one the first 24 with three full stops after
them. The filter is asked of names. So a block is listed exactly if its selector as shown
holds the filter (`stylesheet_lists_shown_selectors`), which for a selector that is shown
in full is the selector itself. Beyond that a part of a selector that is not shown is not
found (`unshown_part_of_selector_not_found`).

A style sheet has neither containers nor, here, markers. Nesting then comes down to a sort,
and a level lists its leaves, in either order (`Forest.emit_perm_of_leaves`). Identities and
colors are written into entries on the way; `Entry.bare` takes them off again.
-/
import SourceOutline.Proofs.Adoption
import SourceOutline.Proofs.BackgroundPurge
import SourceOutline.Proofs.Mappings
import SourceOutline.Proofs.Pairing
import SourceOutline.Proofs.Substrings
import SourceOutline.Proofs.TitleOrder

set_option autoImplicit false

namespace SourceOutline

open scoped List

/-! ## Forests of leaves -/

theorem adoptEach_of_plain {forest : Forest} (h : ∀ member ∈ forest, member.isContainer = false)
    (depth : Nat) (pool : Forest) : adoptEach (adopt depth) forest pool = (forest, pool) := by
  induction forest with
  | nil => rfl
  | cons member rest ih =>
    rw [List.forall_mem_cons] at h
    rw [adoptEach, adopt_of_plain h.1]
    dsimp only
    rw [ih h.2]

/-- Without containers there is nothing to nest. -/
theorem Forest.nest_of_plain {forest : Forest}
    (h : ∀ member ∈ forest, member.isContainer = false) : forest.nest = forest.sortByLine := by
  have hwaits : ∀ member ∈ forest, forest.waits member = false := by
    intro member hmember
    rw [Forest.waits, h member hmember, Bool.false_and]
  have hpool : forest.pool = [] :=
    List.filter_eq_nil_iff.2 fun member hmember => by simp [hwaits member hmember]
  have houtermost : forest.outermost = forest :=
    List.filter_eq_self.2 fun member hmember => by simp [hwaits member hmember]
  rw [Forest.nest_eq, Forest.adoptedTo, hpool, houtermost, adoptEach_of_plain h, List.append_nil]

/-- A member of a level that is neither a container nor a marker. -/
def Member.IsLeaf (member : Member) : Prop :=
  member.isContainer = false ∧ member.entry.kind ≠ .region

/-- Without markers both orders of a level have all its rows. -/
theorem arrange_perm_of_unmarked {blocks : List Block}
    (h : ∀ block ∈ blocks, block.entry.kind ≠ .region) (options : Options) :
    arrange options blocks ~ blocks.flatMap Block.rows := by
  cases hsort : options.sortMembers with
  | false => rw [arrange_unsorted hsort]
  | true =>
    have hunmarked : blocks.filter (fun block => block.entry.kind != .region) = blocks :=
      List.filter_eq_self.2 fun block hblock => bne_iff_ne.2 (h block hblock)
    have hperm := arrange_sorted_perm hsort blocks
    rwa [hunmarked] at hperm

/-- **A level of leaves**, in either order, has those that are shown. -/
theorem Forest.emit_perm_of_leaves {forest : Forest} (h : ∀ member ∈ forest, member.IsLeaf)
    {options : Options} (hothers : options.containers.others = true) :
    forest.emit options false
      ~ ((forest.map Member.entry).filter options.showsLeaf).map Entry.item := by
  have harrange : arrange options (forest.blocks options none true)
      ~ (forest.blocks options none true).flatMap Block.rows := by
    refine arrange_perm_of_unmarked (fun block hblock => ?_) options
    rw [Forest.blocks_eq_map] at hblock
    obtain ⟨member, hmember, rfl⟩ := List.mem_map.1 hblock
    exact (h member hmember).2
  have hrows : (forest.blocks options none true).flatMap Block.rows
      = (forest.map Member.entry).filter options.showsLeaf := by
    rw [Forest.blocks_eq_map]
    apply flatMap_rows_eq_filter
    intro member hmember
    obtain ⟨hplain, hkind⟩ := h member hmember
    rw [Member.block, hplain, leafRows, beq_eq_false_iff_ne.2 hkind]
    rfl
  have hloose : (options.containers.others && (none : Option String).isNone) = true := by
    rw [hothers]
    rfl
  rw [hrows] at harrange
  unfold Forest.emit
  dsimp only
  rw [if_neg Bool.false_ne_true, hloose]
  exact harrange.map _

/-! ## Texts without markers -/

theorem MarkerStyle.scan_eq_nil {style : MarkerStyle} {source : String}
    (h : ∀ line ∈ Text.lines source, style.read? line = none) (fromLine : Nat) :
    style.scan source fromLine = [] := by
  have hscan : ∀ (lines : List (Nat × List Char)), (∀ line ∈ lines, style.read? line.2 = none) →
      ∀ number, style.scanLines [] number lines = [] := by
    intro lines
    induction lines with
    | nil => exact fun _ _ => rfl
    | cons line rest ih =>
      intro hlines number
      rw [List.forall_mem_cons] at hlines
      rw [scanLines_plain hlines.1, ih hlines.2]
  apply hscan
  rintro ⟨number, line⟩ hline
  exact h line (List.mem_of_getElem? (Text.mem_numbered.1 (List.mem_of_mem_drop hline)).2)

/-- Without markers the members of a mapping are put in order and get identities. -/
theorem Mapping.identified_of_unmarked (mapping : Mapping) {style : MarkerStyle} {source : String}
    (h : ∀ line ∈ Text.lines source, style.read? line = none) (tokens : Nat → String) :
    mapping.identified style source tokens = mapping.members.sortByLine.assignIds tokens := by
  rw [Mapping.identified]
  cases mapping.codeStartLine with
  | none => rfl
  | some line =>
    dsimp only
    rw [Forest.resolveRegions, MarkerStyle.scan_eq_nil h]
    rfl

/-- The entry without identity and color. -/
def Entry.bare (entry : Entry) : Entry := { entry with id := "", colorTag := none }

/-- Identities and colors are all that is written into a forest. -/
theorem Forest.bare_joinColors_assignIds (forest : Forest) (tokens : Nat → String)
    (bookmarks : Bookmarks) (key : Option String) :
    ((forest.assignIds tokens).joinColors bookmarks key).mapEntries Entry.bare
      = forest.mapEntries Entry.bare := by
  have hids := Forest.mapEntries_assignIdsFrom (f := Entry.bare) (fun _ _ => rfl) tokens [] forest
  cases key with
  | none => exact hids
  | some key =>
    rw [Forest.joinColors, Forest.mapEntries_mapEntries]
    exact hids

/-! ## Style sheets -/

namespace Stylesheet

/-- The selector of a line that opens a block: what stands before the brace. Neither has blanks
around it. -/
def SelectorOf (line selector : List Char) : Prop :=
  ∃ inner, Text.trim line = inner ++ ['\x7b'] ∧ selector = Text.trim inner

theorem selector?_eq_some_iff {line selector : List Char} :
    selector? line = some selector ↔ SelectorOf line selector := by
  rw [selector?, Option.map_eq_some_iff]
  simp only [Text.dropEnd?_eq_some_iff, SelectorOf, eq_comm (a := selector)]

theorem SelectorOf.unique {line selector selector' : List Char} (h : SelectorOf line selector)
    (h' : SelectorOf line selector') : selector = selector' := by
  rw [← selector?_eq_some_iff] at h h'
  exact Option.some.inj (h.symm.trans h')

/-- The entry of a line that opens a block. -/
def blockEntry (number : Nat) (line selector : List Char) : Entry :=
  { kind := .field, name := String.ofList (shorten selector), startLine := number,
    column := Text.indent line }

/-- The members of a style sheet, line by line. -/
theorem mem_members {source : String} {member : Member} :
    member ∈ members source
      ↔ ∃ number line selector, (Text.lines source)[number]? = some line
        ∧ SelectorOf line selector ∧ member = .leaf (blockEntry number line selector) := by
  rw [members, List.mem_filterMap]
  simp only [Prod.exists, Text.mem_numbered, Nat.zero_le, Nat.sub_zero, true_and, member?,
    Option.map_eq_some_iff, selector?_eq_some_iff]
  constructor
  · rintro ⟨number, line, hline, selector, hselector, rfl⟩
    exact ⟨number, line, selector, hline, hselector, rfl⟩
  · rintro ⟨number, line, selector, hline, hselector, rfl⟩
    exact ⟨number, line, hline, selector, hselector, rfl⟩

/-- No two members stand on one line. -/
theorem nodup_startLine (source : String) :
    ((members source).map Member.startLine).Nodup := by
  rw [List.nodup_iff_pairwise_ne, List.pairwise_map]
  refine List.pairwise_filterMap.2 ((Text.pairwise_numbered 0 _).1.imp ?_)
  intro first second hlt member hfirst member' hsecond
  rw [(of_member? hfirst).2.2, (of_member? hsecond).2.2]
  exact Nat.ne_of_lt hlt

/-- A selector that is not too long is shown in full. -/
theorem shorten_of_le {selector : List Char} (h : selector.length ≤ longestSelector) :
    shorten selector = selector := by
  rw [shorten, if_neg (Nat.not_lt.2 h)]

/-- A block is listed if fields are, and if its selector as shown holds the filter. -/
theorem showsLeaf_blockEntry {options : Options} (hpublic : options.fields.publicShown = true)
    {filter : String} (hfilter : options.memberFilter = some filter) (number : Nat)
    (line selector : List Char) :
    options.showsLeaf (blockEntry number line selector) = true
      ↔ Text.Holds (String.ofList (shorten selector)) filter := by
  rw [Options.showsLeaf, blockEntry]
  simp only [Visibility.allows, hpublic, if_true, Bool.true_and, matchesFilter_iff, hfilter,
    Option.mem_some, forall_eq']

/-- What a style sheet declares has neither identity nor color. -/
theorem bare_members (source : String) :
    (members source).map (Member.mapEntries Entry.bare) = members source := by
  refine (List.map_congr_left ?_).trans (List.map_id _)
  intro member hmember
  obtain ⟨number, line, selector, -, -, rfl⟩ := mem_members.1 hmember
  rfl

theorem keepsOrder_bare : KeepsOrder Entry.bare := fun _ _ => Iff.rfl

/-- Items that are the members of a style sheet that are shown, in whichever order, with
identities and colors of their own. -/
def ListsShown (source : String) (options : Options) (items : List Item) : Prop :=
  ∃ rows : List Entry, items ~ rows.map Entry.item
    ∧ rows.map Entry.bare ~ ((members source).map Member.entry).filter options.showsLeaf

/-- **The rows of a style sheet without markers.** -/
theorem listsShown_emit {source : String}
    (hmarkers : ∀ line ∈ Text.lines source, MarkerStyle.blockComment.read? line = none)
    (tokens : Nat → String) (bookmarks : Bookmarks) (key : Option String) {options : Options}
    (hothers : options.containers.others = true) :
    ListsShown source options
      ((((Mapping.wholeFile (members source)).identified .blockComment source tokens).joinColors
        bookmarks key).nest.emit options false) := by
  generalize hforest : ((Mapping.wholeFile (members source)).identified .blockComment source
    tokens).joinColors bookmarks key = forest
  have hbare : forest.mapEntries Entry.bare = (members source).sortByLine := by
    rw [← hforest, Mapping.identified_of_unmarked _ hmarkers, Forest.bare_joinColors_assignIds,
      Forest.mapEntries_eq_map, ← keepsOrder_bare.sortByLine_map]
    exact congrArg Forest.sortByLine (bare_members source)
  have hentries : (forest.map Member.entry).map Entry.bare
      = (members source).sortByLine.map Member.entry := by
    rw [← hbare, Forest.map_entry_mapEntries]
  -- The kind of a member is in its bare entry, which is that of a block.
  have hleaf : ∀ member ∈ forest, member.IsLeaf := by
    intro member hmember
    have hentry : member.entry.bare ∈ (members source).sortByLine.map Member.entry := by
      rw [← hentries, List.map_map]
      exact List.mem_map_of_mem (f := Entry.bare ∘ Member.entry) hmember
    obtain ⟨old, hold, heq⟩ := List.mem_map.1 hentry
    obtain ⟨number, line, selector, -, -, rfl⟩ :=
      mem_members.1 ((Forest.sortByLine_perm _).mem_iff.1 hold)
    have hkind : member.entry.kind = .field := (congrArg Entry.kind heq).symm
    rw [Member.IsLeaf, Member.isContainer, hkind]
    exact ⟨rfl, by decide⟩
  refine ⟨(forest.sortByLine.map Member.entry).filter options.showsLeaf, ?_, ?_⟩
  · rw [Forest.nest_of_plain fun member hmember => (hleaf member hmember).1]
    refine Forest.emit_perm_of_leaves (fun member hmember => ?_) hothers
    exact hleaf member ((Forest.sortByLine_perm _).mem_iff.1 hmember)
  · -- What is shown does not depend on identities and colors.
    have hshows : options.showsLeaf ∘ Entry.bare = options.showsLeaf := rfl
    calc ((forest.sortByLine.map Member.entry).filter options.showsLeaf).map Entry.bare
      _ ~ ((forest.map Member.entry).filter options.showsLeaf).map Entry.bare :=
        (((Forest.sortByLine_perm forest).map _).filter _).map _
      _ = ((forest.map Member.entry).map Entry.bare).filter options.showsLeaf := by
        rw [List.filter_map (f := Entry.bare), hshows]
      _ = ((members source).sortByLine.map Member.entry).filter options.showsLeaf := by
        rw [hentries]
      _ ~ ((members source).map Member.entry).filter options.showsLeaf :=
        ((Forest.sortByLine_perm _).map _).filter _

/-- The blocks that are shown. -/
theorem mem_shown_iff {source : String} {options : Options}
    (hpublic : options.fields.publicShown = true) {filter : String}
    (hfilter : options.memberFilter = some filter) {entry : Entry} :
    entry ∈ ((members source).map Member.entry).filter options.showsLeaf
      ↔ ∃ number line selector, (Text.lines source)[number]? = some line
        ∧ SelectorOf line selector ∧ Text.Holds (String.ofList (shorten selector)) filter
        ∧ entry = blockEntry number line selector := by
  rw [List.mem_filter, List.mem_map]
  constructor
  · rintro ⟨⟨member, hmember, rfl⟩, hshows⟩
    obtain ⟨number, line, selector, hline, hselector, rfl⟩ := mem_members.1 hmember
    have hholds := (showsLeaf_blockEntry hpublic hfilter number line selector).1 hshows
    exact ⟨number, line, selector, hline, hselector, hholds, rfl⟩
  · rintro ⟨number, line, selector, hline, hselector, hholds, rfl⟩
    refine ⟨⟨_, mem_members.2 ⟨number, line, selector, hline, hselector, rfl⟩, rfl⟩, ?_⟩
    exact (showsLeaf_blockEntry hpublic hfilter number line selector).2 hholds

namespace ListsShown

variable {source : String} {options : Options} {items : List Item}

/-- No two items stand on one line. -/
theorem nodup_startLine (h : ListsShown source options items) :
    (items.map Item.startLine).Nodup := by
  obtain ⟨rows, hitems, hrows⟩ := h
  have hstarts : items.map Item.startLine
      ~ (((members source).map Member.entry).filter options.showsLeaf).map Entry.startLine := by
    calc items.map Item.startLine
      _ ~ (rows.map Entry.item).map Item.startLine := hitems.map _
      _ = (rows.map Entry.bare).map Entry.startLine := by
        rw [List.map_map, List.map_map]
        rfl
      _ ~ _ := hrows.map _
  have hsublist := (List.filter_sublist (p := options.showsLeaf)
    (l := (members source).map Member.entry)).map Entry.startLine
  rw [List.map_map] at hsublist
  exact hstarts.nodup_iff.2 ((Stylesheet.nodup_startLine source).sublist hsublist)

/-- An item comes from a block that is shown. -/
theorem exists_block (h : ListsShown source options items)
    (hpublic : options.fields.publicShown = true) {filter : String}
    (hfilter : options.memberFilter = some filter) {item : Item} (hitem : item ∈ items) :
    ∃ line selector, (Text.lines source)[item.startLine]? = some line ∧ SelectorOf line selector
      ∧ item.kind = .field ∧ item.name = String.ofList (shorten selector)
      ∧ Text.Holds item.name filter := by
  obtain ⟨rows, hitems, hrows⟩ := h
  obtain ⟨row, hrow, rfl⟩ := List.mem_map.1 (hitems.mem_iff.1 hitem)
  have hshown := hrows.mem_iff.1 (List.mem_map_of_mem (f := Entry.bare) hrow)
  obtain ⟨number, line, selector, hline, hselector, hholds, hbare⟩ :=
    (mem_shown_iff hpublic hfilter).1 hshown
  have hstart : row.item.startLine = number := congrArg Entry.startLine hbare
  have hkind : row.item.kind = .field := congrArg Entry.kind hbare
  have hname : row.item.name = String.ofList (shorten selector) := congrArg Entry.name hbare
  rw [hstart, hname]
  exact ⟨line, selector, hline, hselector, hkind, rfl, hholds⟩

/-- A block that is shown has an item. -/
theorem exists_item (h : ListsShown source options items)
    (hpublic : options.fields.publicShown = true) {filter : String}
    (hfilter : options.memberFilter = some filter) {number : Nat} {line selector : List Char}
    (hline : (Text.lines source)[number]? = some line) (hselector : SelectorOf line selector)
    (hholds : Text.Holds (String.ofList (shorten selector)) filter) :
    ∃ item ∈ items, item.startLine = number := by
  obtain ⟨rows, hitems, hrows⟩ := h
  have hshown := (mem_shown_iff hpublic hfilter).2
    ⟨number, line, selector, hline, hselector, hholds, rfl⟩
  obtain ⟨row, hrow, hbare⟩ := List.mem_map.1 (hrows.mem_iff.2 hshown)
  exact ⟨row.item, hitems.mem_iff.2 (List.mem_map_of_mem hrow), congrArg Entry.startLine hbare⟩

end ListsShown

end Stylesheet

/-- **The blocks of a style sheet that are listed under a member filter.** There is one row for
each line that opens a block and whose selector, as it is shown, holds the filter, and no
other row. For a selector that is shown in full that is the selector itself. -/
theorem stylesheet_lists_shown_selectors {σ : Type} {generator : Generator σ}
    (hfactory : generator.factory = standardFactory) {source : Source}
    (hlanguage : generator.registry.resolve source.extension = some .css) {text : String}
    {world : World σ} (hread : source.read world.disk = .ok text)
    (hmarkers : ∀ line ∈ Text.lines text, MarkerStyle.blockComment.read? line = none)
    {options : Options} (hpublic : options.fields.publicShown = true)
    (hothers : options.containers.others = true) {filter : String}
    (hfilter : options.memberFilter = some filter) :
    ∃ outline after, generator.generate source options world = (.ready outline, after)
      ∧ (outline.items.map Item.startLine).Nodup
      ∧ (∀ item ∈ outline.items, ∃ line selector,
        (Text.lines text)[item.startLine]? = some line ∧ Stylesheet.SelectorOf line selector
          ∧ item.kind = .field ∧ item.name = String.ofList (Stylesheet.shorten selector)
          ∧ Text.Holds item.name filter)
      ∧ ∀ number line selector, (Text.lines text)[number]? = some line →
        Stylesheet.SelectorOf line selector →
        ((∃ item ∈ outline.items, item.startLine = number)
          ↔ Text.Holds (String.ofList (Stylesheet.shorten selector)) filter)
        ∧ (selector.length ≤ Stylesheet.longestSelector →
          ((∃ item ∈ outline.items, item.startLine = number)
            ↔ Text.Holds (String.ofList selector) filter)) := by
  rw [standardFactory_eq] at hfactory
  let run := Completion.first hfactory hlanguage hread options
  have hlists : Stylesheet.ListsShown text options run.outline.items :=
    Stylesheet.listsShown_emit hmarkers generator.tokens world.store.bookmarks source.fileKey? hothers
  have hblocks := fun item (hitem : item ∈ run.outline.items) =>
    hlists.exists_block hpublic hfilter hitem
  refine ⟨run.outline, run.worldAfter, Generator.generate_first hfactory hlanguage hread options,
    hlists.nodup_startLine, hblocks, ?_⟩
  intro number line selector hline hselector
  have hiff : (∃ item ∈ run.outline.items, item.startLine = number)
      ↔ Text.Holds (String.ofList (Stylesheet.shorten selector)) filter := by
    constructor
    · -- An item on the line comes from a block on it, and the line has one selector.
      rintro ⟨item, hitem, rfl⟩
      obtain ⟨line', selector', hline', hselector', -, hname, hholds⟩ := hblocks item hitem
      rw [hline] at hline'
      cases hline'
      rwa [hname, ← hselector.unique hselector'] at hholds
    · exact hlists.exists_item hpublic hfilter hline hselector
  refine ⟨hiff, fun hlength => ?_⟩
  rwa [Stylesheet.shorten_of_le hlength] at hiff

/-- A filter that two selectors hold, one of them behind what is shown of it. -/
theorem stylesheet_lists_shown_selectors_of_two_rules :
    let sheet := "a.active \x7b\n\x7d\n.navbar .menu-item:hover > a.active-link \x7b\n\x7d"
    let options : Options := { memberNameFilter := some " Active " }
    let world : World Unit := ⟨{ home := "/" }, .inMemory, ()⟩
    ∃ outline after,
      Generator.forSheets.generate (.text sheet "css" none) options world = (.ready outline, after)
      ∧ (∃ item ∈ outline.items, item.startLine = 0)
      ∧ ¬∃ item ∈ outline.items, item.startLine = 2 := by
  intro sheet options world
  have hlines : Text.lines sheet = ["a.active \x7b".toList, "\x7d".toList,
      ".navbar .menu-item:hover > a.active-link \x7b".toList, "\x7d".toList] := by
    dsimp only [sheet]
    cbv
  have hmarkers : ∀ line ∈ Text.lines sheet, MarkerStyle.blockComment.read? line = none := by
    rw [hlines]
    decide +kernel
  have hlanguage : Generator.forSheets.registry.resolve (Source.text sheet "css" none).extension
      = some .css := by decide +kernel
  have hfactory : Generator.forSheets.factory = standardFactory := rfl
  have hfilter : options.memberFilter = some "Active" := by decide +kernel
  have hread : (Source.text sheet "css" none).read world.disk = .ok sheet := rfl
  have hpublic : options.fields.publicShown = true := rfl
  have hothers : options.containers.others = true := rfl
  obtain ⟨outline, after, hready, -, -, hlisted⟩ :=
    stylesheet_lists_shown_selectors hfactory hlanguage hread hmarkers hpublic hothers hfilter
  refine ⟨outline, after, hready, ?_, ?_⟩
  · refine (hlisted 0 _ "a.active".toList (by rw [hlines]; rfl) ?_).1.2 ?_
    · exact ⟨"a.active ".toList, by decide +kernel, by decide +kernel⟩
    · decide +kernel
  · refine (not_congr (hlisted 2 _ ".navbar .menu-item:hover > a.active-link".toList
      (by rw [hlines]; rfl) ?_).1).2 ?_
    · exact ⟨".navbar .menu-item:hover > a.active-link ".toList, by decide +kernel,
        by decide +kernel⟩
    · decide +kernel

/-- **A part of a selector that is not shown is not found.** The sheet has one rule and no
marker. Its selector holds the filter behind the 24 characters that are shown, and nothing
is listed. -/
theorem unshown_part_of_selector_not_found :
    let sheet := ".navbar .menu-item:hover > a.active-link-with-long-name \x7b\n\x7d\n"
    let options : Options := { memberNameFilter := some "active" }
    let world : World Unit := ⟨{ home := "/" }, .inMemory, ()⟩
    let line := ".navbar .menu-item:hover > a.active-link-with-long-name \x7b".toList
    let selector := ".navbar .menu-item:hover > a.active-link-with-long-name".toList
    (∀ line ∈ Text.lines sheet, MarkerStyle.blockComment.read? line = none)
      ∧ (Text.lines sheet)[0]? = some line ∧ Stylesheet.SelectorOf line selector
      ∧ options.memberFilter = some "active"
      ∧ Text.Holds (String.ofList selector) "active"
      ∧ ∃ outline after,
        Generator.forSheets.generate (.text sheet "css" none) options world
          = (.ready outline, after)
        ∧ outline.items = [] := by
  intro sheet options world line selector
  have hlines : Text.lines sheet = [line, "\x7d".toList] := by
    dsimp only [sheet, line]
    cbv
  have hmarkers : ∀ line ∈ Text.lines sheet, MarkerStyle.blockComment.read? line = none := by
    rw [hlines]
    decide +kernel
  have hlanguage : Generator.forSheets.registry.resolve (Source.text sheet "css" none).extension
      = some .css := by decide +kernel
  have hfactory : Generator.forSheets.factory = factoryWith CSharp.parse := standardFactory_eq
  have hfilter : options.memberFilter = some "active" := by decide +kernel
  have hselector : Stylesheet.SelectorOf line selector :=
    ⟨selector ++ [' '], by decide +kernel, by decide +kernel⟩
  -- The only block is refused by its name, so there is no row.
  have hnone : ((Stylesheet.members sheet).map Member.entry).filter options.showsLeaf = [] := by
    rw [← List.isEmpty_iff]
    decide +kernel
  have hothers : options.containers.others = true := rfl
  obtain ⟨rows, hitems, hrows⟩ := Stylesheet.listsShown_emit hmarkers Generator.forSheets.tokens
    world.store.bookmarks none hothers
  rw [hnone, List.perm_nil, List.map_eq_nil_iff] at hrows
  rw [hrows] at hitems
  have hread : (Source.text sheet "css" none).read world.disk = .ok sheet := rfl
  refine ⟨hmarkers, by rw [hlines]; rfl, hselector, hfilter, by decide +kernel, _, _,
    Generator.generate_first hfactory hlanguage hread options, ?_⟩
  exact List.perm_nil.1 hitems

end SourceOutline
