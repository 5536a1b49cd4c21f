/-
TOML documents. A document is a sequence of statements: headers, which say which
table the following keys belong to, and keys with values. `Document.build` puts
the statements together and refuses what the format refuses.

A table can come into being in four ways, and which one it was decides what may
still be added to it. A header defines its table, once. A header also brings the
tables on the way to it into being, and these may still be defined by a header of
their own. A dotted key brings tables into being that only dotted keys of the
same block may extend. An inline table is a value and is closed.
-/

set_option autoImplicit false

namespace SourceOutline

/-- A value of a document. Numbers and dates are kept as they are written. -/
inductive Toml where
  | str (value : String)
  | bool (value : Bool)
  | number (text : String)
  | moment (text : String)
  | array (items : List Toml)
  | table (entries : List (String × Toml))

namespace Toml

/-! ## Tables under construction -/

/-- How a table came into being. -/
inductive Origin where
  /-- By a header of its own. -/
  | header
  /-- On the way to another header. -/
  | passed
  /-- On the way of a dotted key. -/
  | dotted
deriving DecidableEq

/-- What stands under a key of a table under construction. -/
inductive Slot where
  | value (value : Toml)
  | table (origin : Origin) (slots : List (String × Slot))
  /-- The tables of an array, the last one first. -/
  | tables (blocks : List (List (String × Slot)))

/-- The slots of a table under construction. -/
abbrev Slots := List (String × Slot)

/-- Puts a slot under a key, in place of the one that is there. -/
def setSlot (key : String) (slot : Slot) : Slots → Slots
  | [] => [(key, slot)]
  | (other, old) :: rest =>
    if other = key then (key, slot) :: rest else (other, old) :: setSlot key slot rest

/-- Adds a key with a value that is reached over dotted keys. `reached` tells how the
table came into being in which the rest of the path is looked up. -/
def addValue (key : String) (value : Toml) (reached : Option Origin) :
    List String → Slots → Option Slots
  | [], slots =>
    -- A plain key goes into a table that has a header, a dotted one into a table
    -- that dotted keys made.
    if reached = none || reached = some .dotted then
      match slots.lookup key with
      | none => some (setSlot key (.value value) slots)
      | some _ => none
    else none
  | step :: path, slots =>
    match slots.lookup step with
    | none =>
      (addValue key value (some .dotted) path []).map fun inner =>
        setSlot step (.table .dotted inner) slots
    | some (.table .header _) => none
    | some (.table origin inner) =>
      (addValue key value (some origin) path inner).map fun inner =>
        setSlot step (.table origin inner) slots
    | some (.tables (block :: blocks)) =>
      (addValue key value (some .header) path block).map fun block =>
        setSlot step (.tables (block :: blocks)) slots
    | some _ => none

/-- Follows a path of tables, making those that are missing, and changes the slots
it leads to. Of an array of tables it follows the last one. -/
def within (change : Slots → Option Slots) : List String → Slots → Option Slots
  | [], slots => change slots
  | step :: path, slots =>
    match slots.lookup step with
    | none =>
      (within change path []).map fun inner => setSlot step (.table .passed inner) slots
    | some (.table origin inner) =>
      (within change path inner).map fun inner => setSlot step (.table origin inner) slots
    | some (.tables (block :: blocks)) =>
      (within change path block).map fun block =>
        setSlot step (.tables (block :: blocks)) slots
    | some _ => none

/-- Defines a table by a header. -/
def defineTable (key : String) (slots : Slots) : Option Slots :=
  match slots.lookup key with
  | none => some (setSlot key (.table .header []) slots)
  | some (.table .passed inner) => some (setSlot key (.table .header inner) slots)
  | some _ => none

/-- Opens the next table of an array of tables. -/
def appendTable (key : String) (slots : Slots) : Option Slots :=
  match slots.lookup key with
  | none => some (setSlot key (.tables [[]]) slots)
  | some (.tables blocks) => some (setSlot key (.tables ([] :: blocks)) slots)
  | some _ => none

mutual

/-- The finished value of a slot. -/
def Slot.finish : Slot → Toml
  | .value value => value
  | .table _ slots => .table (finishSlots slots)
  | .tables blocks => .array (finishBlocks blocks).reverse

/-- The finished entries of a table. -/
def finishSlots : List (String × Slot) → List (String × Toml)
  | [] => []
  | (key, slot) :: rest => (key, slot.finish) :: finishSlots rest

/-- The finished tables of an array. -/
def finishBlocks : List (List (String × Slot)) → List Toml
  | [] => []
  | block :: rest => .table (finishSlots block) :: finishBlocks rest

end

/-! ## Documents -/

/-- One statement of a document. A path is its leading keys and its last one. -/
inductive Statement where
  | header (path : List String) (key : String)
  | arrayHeader (path : List String) (key : String)
  | entry (path : List String) (key : String) (value : Toml)

/-- Adds statements to the slots of a document, where `here` is the table that the
last header named. -/
def addStatements (here : List String) (slots : Slots) : List Statement → Option Slots
  | [] => some slots
  | .header path key :: rest => do
    let slots ← within (defineTable key) path slots
    addStatements (path ++ [key]) slots rest
  | .arrayHeader path key :: rest => do
    let slots ← within (appendTable key) path slots
    addStatements (path ++ [key]) slots rest
  | .entry path key value :: rest => do
    let slots ← within (addValue key value none path) here slots
    addStatements here slots rest

/-- The entries of a document. -/
def build? (statements : List Statement) : Option (List (String × Toml)) :=
  (addStatements [] [] statements).map finishSlots

/-- The entries of an inline table, whose keys may be dotted. -/
def buildInline? (entries : List (List String × String × Toml)) : Option (List (String × Toml)) :=
  build? (entries.map fun (path, key, value) => .entry path key value)

/-! ## Parts of a value -/

/-- The text of a string. -/
def asString? : Toml → Option String
  | .str value => some value
  | _ => none

/-- The value of a truth value. -/
def asBool? : Toml → Option Bool
  | .bool value => some value
  | _ => none

end Toml

end SourceOutline
