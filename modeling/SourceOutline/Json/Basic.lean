/-
JSON values. An object is the list of its fields in the order in which they are
written, so that printing is a plain recursion and a reader decides for itself
what a repeated key means.

All numbers this library writes are natural numbers. Other numerals can stand in
a file somebody else wrote, and are kept as text. So can strings that are not
text: an escape may name one half of a character without the other, and such a
string is read as `halved`.
-/

set_option autoImplicit false

namespace SourceOutline

/-- A JSON value. -/
inductive Json where
  | null
  | bool (value : Bool)
  /-- A natural number. -/
  | nat (value : Nat)
  /-- Any other numeral, as written. -/
  | numeral (text : String)
  | str (value : String)
  /-- A string in which an escape names half of a character, or an object with such a
  name. -/
  | halved
  | arr (items : List Json)
  | obj (fields : List (String × Json))

namespace Json

/-! ## Parts of a value -/

/-- The value of the first field of that name. -/
def get? (name : String) : Json → Option Json
  | .obj fields => fields.lookup name
  | _ => none

/-- The value of a field, a null counting as no value. -/
def present? (name : String) (value : Json) : Option Json :=
  match value.get? name with
  | some .null => none
  | found => found

/-- The text of a string. -/
def asString? : Json → Option String
  | .str s => some s
  | _ => none

/-- The value of a natural number. -/
def asNat? : Json → Option Nat
  | .nat n => some n
  | _ => none

/-- The value of a truth value. -/
def asBool? : Json → Option Bool
  | .bool b => some b
  | _ => none

/-- The items of an array. -/
def asList? : Json → Option (List Json)
  | .arr items => some items
  | _ => none

/-- The fields of an object. -/
def asFields? : Json → Option (List (String × Json))
  | .obj fields => some fields
  | _ => none

/-- A record with named fields. It may be given as an array of its fields in order, from
which the last ones may be missing. -/
def record? (names : List String) : Json → Option Json
  | .obj fields => some (.obj fields)
  | .arr items => if items.length ≤ names.length then some (.obj (names.zip items)) else none
  | _ => none

/-- A word out of a list of words. It may be given as an object with nothing but a null
under that word. -/
def asWord? : Json → Option String
  | .str s => some s
  | .obj [(name, .null)] => some name
  | _ => none

/-! ## Values from parts -/

/-- A text, or null for none. -/
def ofString? : Option String → Json
  | some s => .str s
  | none => .null

/-- A natural number, or null for none. -/
def ofNat? : Option Nat → Json
  | some n => .nat n
  | none => .null

/-- A field that is written only when there is a value for it. -/
def optional (name : String) : Option Json → List (String × Json)
  | some value => [(name, value)]
  | none => []

/-- An array field that is written only when it has items. -/
def nonempty (name : String) (items : List Json) : List (String × Json) :=
  if items.isEmpty then [] else [(name, .arr items)]

end Json

end SourceOutline
