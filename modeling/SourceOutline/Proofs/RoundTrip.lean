/-
What is printed is read back.

Printing leaves out what has its default, and reading fills in what is absent, so a field can
be lost on either side. A record is taken apart field by field: what reading finds under a name
is what printing put there (`Json.lookup_optional`), and a field that was left out is read as
what it was left out for (`Json.ReadsBack.optional?`).

The text is a matter of its own. Every value that is made here is read back from its text
(`Json.parse?_pretty`), but a document may not have too many brackets inside one another, and
so it has to be said how many there are. An outline has four at most, whatever is in it. A
member has two for every level, and so a tree that is too high is printed and then refused:
`Member.parse?_pretty` says exactly when.

Main statement: `printed_outline_is_read_back`.
-/
import SourceOutline.Proofs.Store
import SourceOutline.Report.Format

set_option autoImplicit false

namespace SourceOutline

namespace Json

/-! ## Fields -/

theorem get?_obj (name : String) (fields : List (String × Json)) :
    get? name (.obj fields) = fields.lookup name := rfl

theorem lookup_optional (name other : String) (value : Option Json) :
    (optional other value).lookup name = if name = other then value else none := by
  cases value with
  | none => rw [optional, List.lookup_nil, ite_self]
  | some value => rw [optional, Dictionary.lookup_cons_eq, List.lookup_nil]

/-- An array field is optional like any other. -/
theorem nonempty_eq_optional (name : String) (items : List Json) :
    nonempty name items = optional name (if items.isEmpty then none else some (.arr items)) := by
  rw [nonempty]
  split <;> rfl

/-- A way to write values, and the way back. A null would be taken for an absent field. -/
structure ReadsBack {α : Type} (write : α → Json) (read : Json → Option α) : Prop where
  back : ∀ a, read (write a) = some a
  present : ∀ a, write a ≠ .null

theorem readsBack_str : ReadsBack str asString? :=
  ⟨fun _ => rfl, fun _ => Json.noConfusion⟩

theorem readsBack_nat : ReadsBack nat asNat? :=
  ⟨fun _ => rfl, fun _ => Json.noConfusion⟩

theorem present?_of_get? {name : String} {value found : Json} (h : value.get? name = some found)
    (hfound : found ≠ .null) : value.present? name = some found := by
  rw [present?, h]
  split
  · rename_i heq
    exact absurd (Option.some.inj heq) hfound
  · rfl

theorem present?_of_none {name : String} {value : Json} (h : value.get? name = none) :
    value.present? name = none := by
  rw [present?, h]

section ReadsBack

variable {α : Type} {write : α → Json} {read : Json → Option α}

theorem ReadsBack.optional? (h : ReadsBack write read) {value : Json} {name : String}
    {a : Option α} (hget : value.get? name = a.map write) :
    value.optional? name read = some a := by
  rw [Json.optional?]
  cases a with
  | none => rw [present?_of_none hget]
  | some a =>
    rw [present?_of_get? hget (h.present a)]
    dsimp only
    rw [h.back]
    rfl

theorem ReadsBack.mapM (h : ReadsBack write read) (list : List α) :
    (list.map write).mapM read = some list :=
  mapM_map_eq_some fun a _ => h.back a

theorem ReadsBack.list? (h : ReadsBack write read) {value : Json} {name : String} {list : List α}
    (hget : value.get? name
      = if (list.map write).isEmpty then none else some (.arr (list.map write))) :
    value.list? name read = some list := by
  rw [Json.list?]
  cases list with
  | nil => rw [present?_of_none hget]
  | cons a list =>
    rw [present?_of_get? hget Json.noConfusion]
    exact h.mapM (a :: list)

end ReadsBack

/-- A text that is left out when it is empty. -/
theorem optional?_text {value : Json} {name text : String}
    (hget : value.get? name = if text = "" then none else some (.str text)) :
    value.optional? name asString? = some (if text = "" then none else some text) := by
  refine readsBack_str.optional? ?_
  rw [hget]
  split <;> rfl

theorem getD_text (text : String) : (if text = "" then none else some text).getD "" = text := by
  by_cases h : text = ""
  · rw [if_pos h, h]
    rfl
  · rw [if_neg h]
    rfl

end Json

/-! ## Records -/

theorem Kind.ofKey?_key (kind : Kind) : Kind.ofKey? kind.key = some kind := by
  cases kind <;> rfl

theorem Language.ofKey?_key (language : Language) :
    Language.ofKey? language.key = some language := by
  cases language <;> rfl

theorem Boundary.ofKey?_key (boundary : Boundary) :
    Boundary.ofKey? boundary.key = some boundary := by
  cases boundary <;> rfl

theorem Marker.readsBack : Json.ReadsBack Marker.toJson Marker.ofJson? := by
  refine ⟨fun marker => ?_, fun _ => Json.noConfusion⟩
  have hboundary := Boundary.ofKey?_key marker.boundary
  simp [Marker.ofJson?, Marker.toJson, Json.record?, Json.get?, Json.asWord?, Json.asString?,
    Json.asNat?, Dictionary.lookup_cons_eq, hboundary]

theorem Signature.readsBack : Json.ReadsBack Signature.toJson Signature.ofJson? := by
  refine ⟨fun signature => ?_, fun _ => Json.noConfusion⟩
  simp [Signature.ofJson?, Signature.toJson, Json.record?, Json.get?, Json.asString?, Json.asBool?,
    Dictionary.lookup_cons_eq]

theorem Ancestry.readsBack : Json.ReadsBack Ancestry.toJson Ancestry.ofJson? := by
  refine ⟨fun path => ?_, fun _ => Json.noConfusion⟩
  have hnamespaces : path.toJson.texts? "namespaces" = some path.namespaces := by
    refine Json.readsBack_str.list? ?_
    simp [Ancestry.toJson, Json.get?, Json.nonempty_eq_optional, Json.ofTexts, List.lookup_append,
      Json.lookup_optional]
  have htypes : path.toJson.texts? "types" = some path.types := by
    refine Json.readsBack_str.list? ?_
    simp [Ancestry.toJson, Json.get?, Json.nonempty_eq_optional, Json.ofTexts, List.lookup_append,
      Json.lookup_optional]
  have hrecord : path.toJson.record? ["namespaces", "types"] = some path.toJson := rfl
  simp [Ancestry.ofJson?, hrecord, hnamespaces, htypes]

theorem Entry.ofJson?_fields (entry : Entry) (children : List Json) :
    Entry.ofJson? (.obj (entry.fields children)) = some entry := by
  -- From here on the value is known only by what stands under its names, so that no step
  -- walks over the list of fields.
  generalize hvalue : Json.obj (entry.fields children) = value
  have hget : ∀ name, value.get? name = Json.get? name (.obj (entry.fields children)) :=
    fun _ => by rw [hvalue]
  simp only [Entry.fields, Json.get?_obj, List.lookup_append, Dictionary.lookup_cons_eq,
    List.lookup_nil, Json.lookup_optional, Json.nonempty_eq_optional] at hget
  have hkind := Kind.ofKey?_key entry.kind
  have hsignature : value.optional? "signature" Signature.ofJson? = some entry.signature :=
    Signature.readsBack.optional? (by simp [hget])
  have hend : value.optional? "end_line" Json.asNat? = some entry.endLine :=
    Json.readsBack_nat.optional? (by simp [hget])
  have hparent : value.optional? "parent_path" Ancestry.ofJson? = some (some entry.parent) :=
    Ancestry.readsBack.optional? (by simp [hget])
  have hregion : value.optional? "region" Marker.ofJson? = some entry.region :=
    Marker.readsBack.optional? (by simp [hget])
  have hid : value.optional? "id" Json.asString?
      = some (if entry.id = "" then none else some entry.id) :=
    Json.optional?_text (by simp [hget])
  have htag : value.optional? "color_tag" Json.asString? = some entry.colorTag :=
    Json.readsBack_str.optional? (by simp [hget])
  simp [Entry.ofJson?, hget, hsignature, hend, hparent, hregion, hid, htag, Json.asWord?,
    Json.asString?, Json.asNat?, Json.asBool?, hkind, Json.getD_text]

theorem Entry.children?_fields (entry : Entry) (children : List Json) :
    (Json.obj (entry.fields children)).optional? "children" Json.asList?
      = some (if children = [] then none else some children) := by
  have hread : Json.ReadsBack Json.arr Json.asList? := ⟨fun _ => rfl, fun _ => Json.noConfusion⟩
  refine hread.optional? ?_
  cases children with
  | nil =>
    simp [Json.get?, Entry.fields, List.lookup_append, Dictionary.lookup_cons_eq,
      Json.lookup_optional, Json.nonempty_eq_optional]
  | cons child children =>
    simp [Json.get?, Entry.fields, List.lookup_append, Dictionary.lookup_cons_eq,
      Json.lookup_optional, Json.nonempty_eq_optional]

theorem Item.readsBack : Json.ReadsBack Item.toJson Item.ofJson? := by
  refine ⟨fun item => ?_, fun _ => Json.noConfusion⟩
  have hrecord : item.toJson.record? itemFields = some item.toJson := rfl
  rw [Item.ofJson?, hrecord, Option.bind_eq_bind, Option.bind_some]
  generalize hvalue : item.toJson = value
  have hget : ∀ name, value.get? name = item.toJson.get? name := fun _ => by rw [hvalue]
  simp only [Item.toJson, Json.get?_obj, List.lookup_append, Dictionary.lookup_cons_eq,
    List.lookup_nil, Json.lookup_optional] at hget
  have hkind := Kind.ofKey?_key item.kind
  have hpath : value.optional? "parent_path" Json.asString?
      = some (if item.parentPath = "" then none else some item.parentPath) :=
    Json.optional?_text (by simp [hget])
  have hend : value.optional? "end_line" Json.asNat? = some item.endLine :=
    Json.readsBack_nat.optional? (by simp [hget])
  have htag : value.optional? "color_tag" Json.asString? = some item.colorTag :=
    Json.readsBack_str.optional? (by simp [hget])
  have hregion : value.optional? "region" Marker.ofJson? = some item.region :=
    Marker.readsBack.optional? (by simp [hget])
  simp [hget, hpath, hend, htag, hregion, Json.asWord?, Json.asString?, Json.asNat?,
    Json.asBool?, hkind, Json.getD_text]

theorem Diagnostic.readsBack : Json.ReadsBack Diagnostic.toJson Diagnostic.ofJson? := by
  refine ⟨fun diagnostic => ?_, fun _ => Json.noConfusion⟩
  simp [Diagnostic.ofJson?, Diagnostic.toJson, Json.record?, Json.get?, Json.asString?,
    Json.asNat?, Dictionary.lookup_cons_eq]

theorem Metadata.readsBack : Json.ReadsBack Metadata.toJson Metadata.ofJson? := by
  refine ⟨fun metadata => ?_, fun _ => Json.noConfusion⟩
  simp [Metadata.ofJson?, Metadata.toJson, Json.record?, Json.get?, Json.asString?, Json.asNat?,
    Dictionary.lookup_cons_eq]

theorem Outline.ofJson?_toJson (outline : Outline) :
    Outline.ofJson? outline.toJson = some outline := by
  have hrecord : outline.toJson.record?
      ["path", "language", "total_lines", "items", "errors", "attempts", "metadata"]
        = some outline.toJson := rfl
  rw [Outline.ofJson?, hrecord, Option.bind_eq_bind, Option.bind_some]
  generalize hvalue : outline.toJson = value
  have hget : ∀ name, value.get? name = outline.toJson.get? name := fun _ => by rw [hvalue]
  simp only [Outline.toJson, Outline.fields, Json.get?_obj, List.lookup_append,
    Dictionary.lookup_cons_eq, List.lookup_nil, Json.lookup_optional,
    Json.nonempty_eq_optional] at hget
  have hlanguage := Language.ofKey?_key outline.language
  have hpath : value.optional? "path" Json.asString? = some outline.path :=
    Json.readsBack_str.optional? (by simp [hget])
  have herrors : value.list? "errors" Diagnostic.ofJson? = some outline.errors :=
    Diagnostic.readsBack.list? (by simp [hget])
  have hitems := Item.readsBack.mapM outline.items
  have hmetadata := Metadata.readsBack.back outline.metadata
  simp [hget, hpath, herrors, hitems, hmetadata, hlanguage, Json.asWord?, Json.asNat?,
    Json.asList?]

/-! ## Members -/

mutual

/-- The number of levels of a member: its own, and those below it. -/
def Member.levels : Member → Nat
  | .node _ children => Forest.levels children + 1

/-- The number of levels of a forest. -/
def Forest.levels : Forest → Nat
  | [] => 0
  | member :: rest => max member.levels (Forest.levels rest)

end

theorem Member.levels_le_of_mem {member : Member} {forest : Forest} (h : member ∈ forest) :
    member.levels ≤ forest.levels := by
  induction forest with
  | nil => cases h
  | cons first rest ih =>
    rw [Forest.levels]
    rcases List.mem_cons.1 h with rfl | h
    · exact Nat.le_max_left _ _
    · exact Nat.le_trans (ih h) (Nat.le_max_right _ _)

theorem Forest.toJson_eq_map (forest : Forest) :
    Forest.toJson forest = forest.map Member.toJson := by
  induction forest with
  | nil => rfl
  | cons member rest ih => rw [Forest.toJson, ih, List.map_cons]

/-- **A member is read back** from its written form, to any depth that is enough for it. -/
theorem Member.ofJsonWithin_toJson {depth : Nat} {member : Member} (h : member.levels ≤ depth) :
    Member.ofJsonWithin depth member.toJson = some member := by
  induction depth generalizing member with
  | zero =>
    cases member with
    | node entry children =>
      rw [Member.levels] at h
      omega
  | succ depth ih =>
    cases member with
    | node entry children =>
      rw [Member.levels] at h
      have hchildren : (Forest.toJson children).mapM (Member.ofJsonWithin depth)
          = some children := by
        rw [Forest.toJson_eq_map]
        refine mapM_map_eq_some fun child hchild => ih ?_
        have hlevels := Member.levels_le_of_mem hchild
        omega
      -- No children and an empty list of children are the same.
      have hitems : ∀ items : List Json,
          (if items = [] then none else some items).getD [] = items := by
        intro items
        cases items <;> rfl
      rw [Member.toJson, Member.ofJsonWithin, Json.record?]
      simp only [Option.bind_eq_bind, Option.bind_some, Entry.ofJson?_fields,
        Entry.children?_fields, hitems, hchildren]
      rfl

/-! ## Brackets -/

namespace Json

theorem nesting_le_nestingFields {fields : List (String × Json)} {field : String × Json}
    (h : field ∈ fields) : field.2.nesting ≤ nestingFields fields := by
  induction fields with
  | nil => cases h
  | cons first rest ih =>
    rw [nestingFields]
    rcases List.mem_cons.1 h with rfl | h
    · exact Nat.le_max_left _ _
    · exact Nat.le_trans (ih h) (Nat.le_max_right _ _)

mutual

/-- Every bracket is a level. -/
theorem nesting_le_height : (value : Json) → value.nesting ≤ value.height
  | .null | .bool _ | .nat _ | .numeral _ | .str _ | .halved => Nat.zero_le _
  | .arr items => Nat.succ_le_succ (nestingItems_le_heightItems items)
  | .obj fields => Nat.succ_le_succ (nestingFields_le_heightFields fields)

theorem nestingItems_le_heightItems :
    (items : List Json) → nestingItems items ≤ heightItems items
  | [] => Nat.le_refl _
  | item :: items => by
    have hitem := nesting_le_height item
    have hitems := nestingItems_le_heightItems items
    rw [nestingItems, heightItems]
    omega

theorem nestingFields_le_heightFields :
    (fields : List (String × Json)) → nestingFields fields ≤ heightFields fields
  | [] => Nat.le_refl _
  | (_, value) :: fields => by
    have hvalue := nesting_le_height value
    have hfields := nestingFields_le_heightFields fields
    rw [nestingFields, heightFields]
    omega

end

/-- A value that is written as it is, with at most so many brackets inside one another. -/
structure Within (depth : Nat) (value : Json) : Prop where
  writable : Writable value
  nesting : value.nesting ≤ depth

theorem Within.mono {depth depth' : Nat} {value : Json} (h : Within depth value)
    (hle : depth ≤ depth') : Within depth' value :=
  ⟨h.writable, Nat.le_trans h.nesting hle⟩

@[simp] theorem within_str (depth : Nat) (text : String) : Within depth (.str text) :=
  ⟨.str text, Nat.zero_le _⟩

@[simp] theorem within_nat (depth : Nat) (n : Nat) : Within depth (.nat n) :=
  ⟨.nat n, Nat.zero_le _⟩

@[simp] theorem within_bool (depth : Nat) (b : Bool) : Within depth (.bool b) :=
  ⟨.bool b, Nat.zero_le _⟩

theorem within_arr {depth : Nat} {items : List Json} (h : ∀ item ∈ items, Within depth item) :
    Within (depth + 1) (.arr items) := by
  refine ⟨.arr fun item hitem => (h item hitem).writable, ?_⟩
  rw [nesting]
  refine Nat.succ_le_succ ?_
  induction items with
  | nil => exact Nat.zero_le _
  | cons item items ih =>
    obtain ⟨hitem, hitems⟩ := List.forall_mem_cons.1 h
    exact Nat.max_le.2 ⟨hitem.nesting, ih hitems⟩

theorem within_obj {depth : Nat} {fields : List (String × Json)}
    (h : ∀ field ∈ fields, Within depth field.2) : Within (depth + 1) (.obj fields) := by
  refine ⟨.obj fun field hfield => (h field hfield).writable, ?_⟩
  rw [nesting]
  refine Nat.succ_le_succ ?_
  induction fields with
  | nil => exact Nat.zero_le _
  | cons field fields ih =>
    obtain ⟨hfield, hfields⟩ := List.forall_mem_cons.1 h
    exact Nat.max_le.2 ⟨hfield.nesting, ih hfields⟩

/-- What is true of the value of an optional field. -/
theorem forall_mem_optional {P : String × Json → Prop} {name : String} {value : Option Json} :
    (∀ field ∈ optional name value, P field) ↔ ∀ found, value = some found → P (name, found) := by
  cases value <;> simp [optional]

/-- A writable value is read back from its text if it is not too deep, and not if it is. -/
theorem document?_pretty {value : Json} (h : Writable value) :
    document? value.pretty = if value.nesting ≤ nestingLimit then some value else none := by
  rw [document?, parse?_pretty h]
  rfl

end Json

theorem Marker.within_toJson (marker : Marker) : Json.Within 1 marker.toJson :=
  Json.within_obj (by simp)

theorem Signature.within_toJson (signature : Signature) : Json.Within 1 signature.toJson :=
  Json.within_obj (by simp)

theorem Diagnostic.within_toJson (diagnostic : Diagnostic) : Json.Within 1 diagnostic.toJson :=
  Json.within_obj (by simp)

theorem Metadata.within_toJson (metadata : Metadata) : Json.Within 1 metadata.toJson :=
  Json.within_obj (by simp)

theorem Json.within_map {α : Type} {write : α → Json} {depth : Nat}
    (h : ∀ a, Json.Within depth (write a)) (name : String) (a : Option α) :
    ∀ field ∈ Json.optional name (a.map write), Json.Within depth field.2 := by
  rw [Json.forall_mem_optional]
  intro found hfound
  obtain ⟨a, -, rfl⟩ := Option.map_eq_some_iff.1 hfound
  exact h a

theorem Json.within_unless {depth : Nat} {value : Json} (h : Json.Within depth value)
    (name : String) (empty : Bool) :
    ∀ field ∈ Json.optional name (if empty then none else some value),
      Json.Within depth field.2 := by
  rw [Json.forall_mem_optional]
  intro found hfound
  split at hfound
  · cases hfound
  · cases hfound
    exact h

theorem Item.within_toJson (item : Item) : Json.Within 2 item.toJson := by
  refine Json.within_obj ?_
  simp only [List.forall_mem_append]
  refine ⟨⟨⟨⟨⟨⟨?_, ?_⟩, ?_⟩, ?_⟩, ?_⟩, ?_⟩, ?_⟩
  · simp
  · exact Json.within_unless (Json.within_str _ _) _ _
  · simp
  · exact Json.within_map (Json.within_nat _) _ _
  · simp
  · exact Json.within_map (Json.within_str _) _ _
  · exact Json.within_map Marker.within_toJson _ _

/-- **An outline has four brackets inside one another at most**: its own, those of the rows,
of a row, and of a marker in it. -/
theorem Outline.within_toJson (outline : Outline) : Json.Within 4 outline.toJson := by
  have hitems : Json.Within 3 (.arr (outline.items.map Item.toJson)) :=
    Json.within_arr (List.forall_mem_map.2 fun item _ => item.within_toJson)
  have herrors : Json.Within 3 (.arr (outline.errors.map Diagnostic.toJson)) :=
    Json.within_arr (List.forall_mem_map.2 fun diagnostic _ =>
      diagnostic.within_toJson.mono (by decide))
  have hmetadata : Json.Within 3 outline.metadata.toJson :=
    outline.metadata.within_toJson.mono (by decide)
  refine Json.within_obj ?_
  simp only [Outline.fields, Json.nonempty_eq_optional, List.forall_mem_append]
  refine ⟨⟨⟨?_, ?_⟩, ?_⟩, ?_⟩
  · exact Json.within_map (Json.within_str _) _ _
  · simp [hitems]
  · exact Json.within_unless herrors _ _
  · simp [hmetadata]

/-- **A printed outline is read back.** -/
theorem Outline.parse?_render (outline : Outline) :
    Outline.parse? (Report.render outline .json) = some outline := by
  have hwithin := outline.within_toJson.mono (show 4 ≤ Json.nestingLimit by decide)
  rw [Report.render, Outline.parse?, Json.document?_pretty hwithin.writable,
    if_pos hwithin.nesting]
  exact outline.ofJson?_toJson

theorem Ancestry.within_toJson (path : Ancestry) : Json.Within 2 path.toJson := by
  have htexts : ∀ texts, Json.Within 1 (.arr (Json.ofTexts texts)) := fun texts =>
    Json.within_arr (List.forall_mem_map.2 fun text _ => Json.within_str _ text)
  refine Json.within_obj ?_
  simp only [Json.nonempty_eq_optional, List.forall_mem_append]
  exact ⟨Json.within_unless (htexts _) _ _, Json.within_unless (htexts _) _ _⟩

theorem Entry.within_fields (entry : Entry) {children : List Json} {depth : Nat}
    (h : ∀ child ∈ children, Json.Within (depth + 1) child) :
    ∀ field ∈ entry.fields children, Json.Within (depth + 2) field.2 := by
  have hparent := entry.parent.within_toJson.mono (Nat.le_add_left 2 depth)
  have hle : 1 ≤ depth + 2 := Nat.le_add_left 1 (depth + 1)
  -- One goal for each group of fields, in the order in which they are written.
  simp only [Entry.fields, Json.nonempty_eq_optional, List.forall_mem_append]
  refine ⟨⟨⟨⟨⟨⟨⟨⟨?_, ?_⟩, ?_⟩, ?_⟩, ?_⟩, ?_⟩, ?_⟩, ?_⟩, ?_⟩
  · simp
  · exact Json.within_map (fun signature => (Signature.within_toJson signature).mono hle) _ _
  · simp
  · exact Json.within_map (Json.within_nat _) _ _
  · simp [hparent]
  · exact Json.within_unless (Json.within_arr h) _ _
  · exact Json.within_map (fun marker => (Marker.within_toJson marker).mono hle) _ _
  · exact Json.within_unless (Json.within_str _ _) _ _
  · exact Json.within_map (Json.within_str _) _ _

mutual

/-- Two brackets for every level are enough, with one for the names of an ancestry. -/
theorem Member.within_toJson :
    (member : Member) → Json.Within (2 * member.levels + 1) member.toJson
  | .node entry children =>
    Json.within_obj (entry.within_fields (Forest.within_toJson children))

theorem Forest.within_toJson :
    (forest : Forest) → ∀ item ∈ Forest.toJson forest, Json.Within (2 * forest.levels + 1) item
  | [] => List.forall_mem_nil _
  | member :: rest => by
    have hmember := Member.within_toJson member
    have hrest := Forest.within_toJson rest
    rw [Forest.toJson, List.forall_mem_cons, Forest.levels]
    exact ⟨hmember.mono (by omega), fun item hitem => (hrest item hitem).mono (by omega)⟩

end

mutual

/-- And two for every level are needed. The lowest member has no children, but it has an
ancestry, and this is an object even if it is empty. -/
theorem Member.le_nesting_toJson :
    (member : Member) → 2 * member.levels ≤ member.toJson.nesting
  | .node entry children => by
    have hbelow := Forest.le_nesting_toJson children
    have hparent : 1 ≤ entry.parent.toJson.nesting := Nat.succ_le_succ (Nat.zero_le _)
    have hancestry := Json.nesting_le_nestingFields
      (show ("parent_path", entry.parent.toJson) ∈ entry.fields (Forest.toJson children) by
        simp [Entry.fields])
    rw [Member.levels, Member.toJson, Json.nesting]
    cases hchildren : Forest.toJson children with
    | nil =>
      -- The lowest level: its second bracket is that of the ancestry.
      rw [hchildren] at hbelow hancestry
      rw [Json.nestingItems] at hbelow
      dsimp only at hancestry
      omega
    | cons first rest =>
      -- Any other level: its second bracket is that of the array of children.
      rw [hchildren] at hbelow
      have harray := Json.nesting_le_nestingFields
        (show ("children", Json.arr (first :: rest)) ∈ entry.fields (first :: rest) by
          simp [Entry.fields, Json.nonempty])
      dsimp only at harray
      rw [Json.nesting] at harray
      omega

theorem Forest.le_nesting_toJson :
    (forest : Forest) → 2 * forest.levels ≤ Json.nestingItems (Forest.toJson forest)
  | [] => Nat.le_refl _
  | member :: rest => by
    have hmember := Member.le_nesting_toJson member
    have hrest := Forest.le_nesting_toJson rest
    rw [Forest.levels, Forest.toJson, Json.nestingItems]
    omega

end

theorem Member.ofJson?_toJson (member : Member) : Member.ofJson? member.toJson = some member := by
  -- The height of the value is what the reader goes by, and it is more than the levels.
  refine Member.ofJsonWithin_toJson ?_
  have hnesting := member.le_nesting_toJson
  have hheight := Json.nesting_le_height member.toJson
  omega

/-- **A printed member is read back if it is not too high**, and refused if it is. -/
theorem Member.parse?_pretty (member : Member) :
    Member.parse? member.toJson.pretty
      = if 2 * member.levels ≤ Json.nestingLimit then some member else none := by
  have hwithin := member.within_toJson
  have hnesting := member.le_nesting_toJson
  rw [Member.parse?, Json.document?_pretty hwithin.writable]
  by_cases hlevels : 2 * member.levels ≤ Json.nestingLimit
  · -- The limit is odd, so there is room for the names of an ancestry.
    have hlimit : member.toJson.nesting ≤ Json.nestingLimit := by
      have hupper := hwithin.nesting
      rw [Json.nestingLimit] at hlevels ⊢
      omega
    rw [if_pos hlimit, if_pos hlevels]
    exact member.ofJson?_toJson
  · have hlimit : ¬member.toJson.nesting ≤ Json.nestingLimit := by omega
    rw [if_neg hlimit, if_neg hlevels]
    rfl

/-- **What is printed is read back.** Every outline is, whatever texts and numbers it is made
of and whatever is missing in it. Every member is got back from its value, however high the
tree is. From its text it is got back if two brackets for every level are within the limit of
a document; otherwise the text is refused. -/
theorem printed_outline_is_read_back :
    (∀ outline : Outline, Outline.parse? (Report.render outline .json) = some outline)
      ∧ (∀ member : Member, Member.ofJson? member.toJson = some member)
      ∧ ∀ member : Member, Member.parse? member.toJson.pretty
          = if 2 * member.levels ≤ Json.nestingLimit then some member else none :=
  ⟨Outline.parse?_render, Member.ofJson?_toJson, Member.parse?_pretty⟩

/-- Classes inside one another. -/
def towerOf : Nat → Member
  | 0 => .leaf { kind := .classType, name := "C", startLine := 0 }
  | height + 1 => .node { kind := .classType, name := "C", startLine := 0 } [towerOf height]

theorem levels_towerOf (height : Nat) : (towerOf height).levels = height + 1 := by
  induction height with
  | zero => rfl
  | succ height ih =>
    rw [towerOf, Member.levels, Forest.levels, ih, Forest.levels]
    omega

/-- A tower of sixty-four classes is printed and cannot be read. -/
theorem printed_tower_is_refused :
    ¬∀ member : Member, Member.parse? member.toJson.pretty = some member := by
  intro h
  have htower := h (towerOf 63)
  rw [Member.parse?_pretty, levels_towerOf, if_neg (by decide)] at htower
  cases htower

end SourceOutline
