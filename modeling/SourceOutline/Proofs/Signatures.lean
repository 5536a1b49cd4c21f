/-
How parameters are shown makes no difference to what a mapper finds.

Whether titles spell out parameter lists is told to a mapper, and so it goes through all
that a mapper does: the classification of a line, the blocks, the walk through a tree.
It comes out in one place, the `shown` field of a signature. `Entry.withShown` sets that
field, and reading a text with one setting and changing it afterwards is the same as
reading the text with the other (`Language.mapping_withShown`).

Each step of a mapper is shown to commute with the change, in the order of the
definitions. Two settings are compared only in the classifiers and where a signature is
made; everywhere else it is enough that lines, names and ancestries stay what they are.
For syntax trees this is a case of what holds for any two readings of one tree.
-/
import SourceOutline.Proofs.Construction
import SourceOutline.Proofs.Mappings
import SourceOutline.Proofs.Readings

set_option autoImplicit false

namespace SourceOutline

/-! ## The change -/

/-- The signature with its parameters shown in titles, or not. -/
def Signature.withShown (shown : Bool) (signature : Signature) : Signature :=
  { signature with shown := shown }

/-- The entry with its parameters shown in its title, or not. -/
def Entry.withShown (shown : Bool) (entry : Entry) : Entry :=
  { entry with signature := entry.signature.map (Signature.withShown shown) }

/-- The member with all parameters shown, or not. -/
def Member.withShown (shown : Bool) : Member → Member :=
  Member.mapEntries (Entry.withShown shown)

theorem Member.entry_withShown (shown : Bool) (member : Member) :
    (member.withShown shown).entry = member.entry.withShown shown :=
  member.entry_mapEntries _

theorem Member.startLine_withShown (shown : Bool) (member : Member) :
    (member.withShown shown).startLine = member.startLine := by
  rw [Member.startLine, Member.entry_withShown]
  rfl

theorem Member.withShown_node (shown : Bool) (entry : Entry) (children : Forest) :
    (Member.node entry children).withShown shown
      = .node (entry.withShown shown) (children.map (Member.withShown shown)) :=
  Member.mapEntries_node _ entry children

theorem keepsOrder_withShown (shown : Bool) : KeepsOrder (Entry.withShown shown) :=
  fun _ _ => Iff.rfl

theorem Forest.sortByLine_withShown (shown : Bool) (forest : Forest) :
    Forest.sortByLine (forest.map (Member.withShown shown))
      = forest.sortByLine.map (Member.withShown shown) :=
  (keepsOrder_withShown shown).sortByLine_map forest

/-- The last line of a list of members. -/
theorem Member.lastLineOf?_withShown (shown : Bool) (forest : Forest) :
    Member.lastLineOf? (forest.map (Member.withShown shown)) = Member.lastLineOf? forest := by
  have hlast := @Member.lastLineOf?_mapEntries (Entry.withShown shown) 0 (fun _ => rfl) forest
  simpa [Member.withShown] using hlast

/-! ## Lines -/

namespace LineScan

variable {σ : Type}

/-- The declaration with its parameters shown, or not. -/
def Declaration.withShown (shown : Bool) (declaration : Declaration) : Declaration :=
  { declaration with signature := declaration.signature.map (Signature.withShown shown) }

/-- The kind of a line with the parameters it declares shown, or not. -/
def LineKind.withShown (shown : Bool) : LineKind → LineKind
  | .declaration declared => .declaration (declared.withShown shown)
  | .scope name => .scope name
  | .plain => .plain
  | .skip => .skip

/-- A classifier that does as another one, but for how parameters are shown. -/
structure Classifier.Redisplays (shown : Bool) (classifier classifier' : Classifier σ) :
    Prop where
  initial : classifier'.initial = classifier.initial
  step : ∀ memory line, classifier'.step memory line
    = ((classifier.step memory line).1.withShown shown, (classifier.step memory line).2)

/-- The declaration in its place. -/
def Found.withShown (shown : Bool) (found : Found) : Found :=
  { found with declaration := found.declaration.withShown shown }

/-- What is known after some lines, with all parameters shown, or not. -/
def State.withShown (shown : Bool) (state : State σ) : State σ :=
  { state with found := state.found.map (Found.withShown shown) }

section Redisplays

variable {shown : Bool} {classifier classifier' : Classifier σ}

/-- **One line.** -/
theorem State.read_withShown (h : classifier.Redisplays shown classifier') (state : State σ)
    (number : Nat) (line : List Char) :
    (state.withShown shown).read classifier' number line
      = (state.read classifier number line).withShown shown := by
  rw [State.read, State.read]
  split
  · rfl
  · have hclose : (state.withShown shown).closeFrom (Text.indent line)
        = (state.closeFrom (Text.indent line)).withShown shown := rfl
    have hmemory : ((state.closeFrom (Text.indent line)).withShown shown).memory
        = (state.closeFrom (Text.indent line)).memory := rfl
    obtain ⟨⟨kind, memory⟩, hstep⟩ :
        ∃ step, classifier.step (state.closeFrom (Text.indent line)).memory line = step := ⟨_, rfl⟩
    have hstep' : classifier'.step (state.closeFrom (Text.indent line)).memory line
        = (kind.withShown shown, memory) := by
      rw [h.step, hstep]
    -- Both states take the same step, which looks at the kind of the line only.
    simp only [hclose, hmemory, hstep, hstep']
    cases kind <;> rfl

/-- **All lines.** -/
theorem State.readAll_withShown (h : classifier.Redisplays shown classifier') (state : State σ)
    (lines : List (Nat × List Char)) :
    (state.withShown shown).readAll classifier' lines
      = (state.readAll classifier lines).withShown shown := by
  induction lines generalizing state with
  | nil => rfl
  | cons line rest ih =>
    rw [State.readAll, State.read_withShown h, ih, State.readAll]

theorem scan_withShown (h : classifier.Redisplays shown classifier') (source : String) :
    scan classifier' source
      = ((scan classifier source).1.map (Found.withShown shown), (scan classifier source).2) := by
  have hstart : ({ memory := classifier'.initial } : State σ)
      = State.withShown shown { memory := classifier.initial } := by
    rw [h.initial]
    rfl
  rw [scan, hstart, State.readAll_withShown h, scan]
  dsimp only
  rw [List.map_reverse]
  rfl

end Redisplays

/-! ## Forests -/

/-- **What is read line by line** does not depend on how parameters are shown. -/
theorem forest_withShown {shown : Bool} {classifier classifier' : Classifier σ}
    (h : classifier.Redisplays shown classifier') (source : String) :
    forest classifier' source = (forest classifier source).map (Member.withShown shown) := by
  rw [forest, scan_withShown h, forest]
  generalize scan classifier source = scanned
  obtain ⟨found, blocks⟩ := scanned
  -- Lines and names stay what they are, and a container that is supplied has no parameters.
  have halike : List.Forall₂ (Alike (Entry.withShown shown) id blocks blocks) found
      (found.map (Found.withShown shown)) := by
    rw [List.forall₂_map_right_iff, List.forall₂_same]
    exact fun declared _ => ⟨rfl, rfl, rfl, fun _ _ => rfl⟩
  have hsame : KeepsOrder id := fun _ _ => Iff.rfl
  have hforest := structured_mapEntries (keepsOrder_withShown shown) hsame halike
  rw [Forest.mapEntries_id, Forest.mapEntries_eq_map] at hforest
  exact hforest

end LineScan

/-! ## Python -/

namespace Python

theorem classLine_withShown (shown : Bool) (line : List Char) :
    (classLine line).withShown shown = classLine line := by
  rw [classLine]
  split <;> rfl

theorem defLine_withShown (shown shown' : Bool) (pending : Pending) (line : List Char) :
    (defLine shown pending line).withShown shown' = defLine shown' pending line := by
  rw [defLine.eq_def, defLine.eq_def]
  dsimp only
  split
  · rfl
  · cases pending <;> rfl

theorem redisplays_classifier (shown shown' : Bool) :
    (classifier shown).Redisplays shown' (classifier shown') := by
  refine ⟨rfl, ?_⟩
  intro pending line
  have hline : classify shown' pending line
      = ((classify shown pending line).1.withShown shown', (classify shown pending line).2) := by
    rw [classify, classify]
    split
    · rfl
    · split
      · rfl
      · split
        · rw [classLine_withShown]
        · split
          · rw [defLine_withShown]
          · rfl
  exact hline

end Python

/-! ## Scripts -/

namespace Script

theorem type?_withShown (shown : Bool) (text : List Char) :
    (type? text).map (LineScan.Declaration.withShown shown) = type? text := by
  simp only [type?, Option.bind_eq_bind, Option.map_bind, Function.comp_def]
  rfl

theorem function?_withShown (shown shown' : Bool) (text : List Char) :
    (function? shown text).map (LineScan.Declaration.withShown shown') = function? shown' text := by
  rw [function?, List.map_findSome?, function?]
  -- Whether an idiom applies, and to which name, is settled before the setting is looked at.
  congr 1
  funext idiom
  simp only [Idiom.declaration?, Option.bind_eq_bind, Function.comp_def, Option.map_bind]
  congr 1
  funext found
  congr 1
  funext name
  split <;> rfl

theorem redisplays_classifier (shown shown' : Bool) :
    (classifier shown).Redisplays shown' (classifier shown') := by
  refine ⟨rfl, ?_⟩
  intro memory line
  have hline : classify shown' line = (classify shown line).withShown shown' := by
    rw [classify, classify]
    split
    · rfl
    · have hfound : ∀ text, (type? text).or (function? shown' text)
          = ((type? text).or (function? shown text)).map
            (LineScan.Declaration.withShown shown') := by
        intro text
        rw [Option.map_or, type?_withShown, function?_withShown]
      dsimp only
      rw [hfound]
      generalize dropExport (Text.trim line) = text
      cases (type? text).or (function? shown text) with
      | some declaration => rfl
      | none => cases scope? text <;> rfl
  exact Prod.ext hline rfl

end Script

/-! ## Syntax trees -/

namespace CSharp

/-- The same way to read declarations, with their parameters shown, or not. -/
def Reading.withShown (shown : Bool) (reading : Reading) : Reading :=
  { reading with showSignatures := shown }

/-- A tree is told anew in its own place. -/
theorem Reading.retells_withShown (reading : Reading) (shown : Bool) :
    Retells (Entry.withShown shown) 0 reading (reading.withShown shown) where
  lineOffset := rfl
  plain := by
    intro entry hsignature
    rw [Entry.shift_zero, Entry.withShown, hsignature, Option.map_none, ← hsignature]
  callable := by
    intro entry parameters
    rw [Entry.shift_zero]
    rfl
  startLine := fun _ => rfl
  lastLine := fun _ => rfl

end CSharp

/-! ## All languages -/

/-- A mapping with all parameters shown, or not. -/
def Mapping.withShown (shown : Bool) (mapping : Mapping) : Mapping :=
  { mapping with members := mapping.members.map (Member.withShown shown) }

theorem CSharp.Reading.mapping_withShown (reading : CSharp.Reading) (shown : Bool)
    (tree : CSharp.SyntaxNode) :
    (reading.withShown shown).mapping tree = (reading.mapping tree).withShown shown := by
  rw [(reading.retells_withShown shown).mapping_eq, Mapping.retold_zero]
  rfl

/-- A style sheet declares nothing with parameters. -/
theorem Stylesheet.members_withShown (shown : Bool) (source : String) :
    (members source).map (Member.withShown shown) = members source := by
  rw [members, List.map_filterMap]
  congr 1
  funext line
  dsimp only
  rw [member?, Option.map_map]
  rfl

/-- **How parameters are shown makes no difference to what is found**, in any language. -/
theorem Language.mapping_withShown (parse : String → CSharp.SyntaxNode) (language : Language)
    (source : String) (options : MapOptions) (shown : Bool) :
    language.mapping parse source { options with showSignatures := shown }
      = (language.mapping parse source options).withShown shown := by
  cases language with
  | csharp =>
    let reading : CSharp.Reading := { showSignatures := options.showSignatures }
    exact reading.mapping_withShown shown (parse source)
  | razor =>
    rw [Language.mapping, Razor.mapping, Razor.mapping]
    dsimp only
    split
    · rename_i found _
      let reading : CSharp.Reading :=
        { lineOffset := found.line, showSignatures := options.showSignatures }
      exact reading.mapping_withShown shown (parse found.code)
    · rfl
  | python =>
    exact congrArg Mapping.wholeFile
      (LineScan.forest_withShown (Python.redisplays_classifier options.showSignatures shown) source)
  | javascript | typescript =>
    exact congrArg Mapping.wholeFile
      (LineScan.forest_withShown (Script.redisplays_classifier options.showSignatures shown) source)
  | css => exact congrArg Mapping.wholeFile (Stylesheet.members_withShown shown source).symm

end SourceOutline
