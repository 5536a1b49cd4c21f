/-
What an outline shows. The options hide whole categories of members, filter by
name, choose between declaration order and title order, and decide whether
parameter lists are spelled out. They never change what a member is: identities
and bookmarks are settled before any option is looked at.
-/
import SourceOutline.Text.LowerCase

set_option autoImplicit false

namespace SourceOutline

/-! ## Options -/

/-- Which members of a category are shown, by visibility. -/
structure Visibility where
  publicShown : Bool := true
  privateShown : Bool := true
deriving DecidableEq, Repr

/-- Whether a member of that visibility is shown. -/
def Visibility.allows (visibility : Visibility) (isPublic : Bool) : Bool :=
  if isPublic then visibility.publicShown else visibility.privateShown

/-- Which containers are shown. -/
structure ContainerVisibility where
  classes : Bool := true
  interfaces : Bool := true
  structs : Bool := true
  /-- Every other container, and the members that stand in none. -/
  others : Bool := true
deriving DecidableEq, Repr

/-- The options of an outline. -/
structure Options where
  /-- Whether titles spell out parameter lists. -/
  showSignatures : Bool := true
  /-- Methods and constructors. -/
  methods : Visibility := {}
  properties : Visibility := {}
  fields : Visibility := {}
  containers : ContainerVisibility := {}
  /-- Title order instead of declaration order. -/
  sortMembers : Bool := true
  /-- A part that the titles of containers have to hold. -/
  classNameFilter : Option String := none
  /-- A part that the names of other members have to hold. -/
  memberNameFilter : Option String := none
deriving DecidableEq, Repr

/-! ## Filters -/

/-- A filter without the blanks around it. A filter of nothing but blanks is none. -/
def activeFilter (filter : Option String) : Option String :=
  match filter with
  | some text =>
    let trimmed := Text.trim text.toList
    if trimmed.isEmpty then none else some (String.ofList trimmed)
  | none => none

/-- Whether a text passes a filter: it has to hold it, up to case. -/
def matchesFilter (text : String) : Option String → Bool
  | some filter => Text.occursIn (Text.lowerChars filter.toList) (Text.lowerChars text.toList)
  | none => true

namespace Options

/-- The filter on containers that is in force. -/
def classFilter (options : Options) : Option String := activeFilter options.classNameFilter

/-- The filter on other members that is in force. -/
def memberFilter (options : Options) : Option String := activeFilter options.memberNameFilter

end Options

end SourceOutline
