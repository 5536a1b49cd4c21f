/-
Identities of members. A bookmark has to find its member again after the file
was edited, so an identity is built from what a member is and where it is
declared, and never from a line number.

`Entry.key` is the name a member would like to have. Two members can want the
same one, and a member without a name wants none; `Forest.assignIds` walks the
forest in preorder and settles both cases. The second taker of a key gets the
suffix `#2`, the next one `#3`, and so on. A member without a key gets a token
that the caller supplies, so that the outcome is a function of its arguments.
-/
import SourceOutline.Member.Basic

set_option autoImplicit false

namespace SourceOutline

/-! ## Keys -/

/-- A name after the ancestry it is declared in. -/
def Ancestry.qualify (path : Ancestry) (name : String) : String :=
  let rendered := path.render
  if rendered.isEmpty then name else rendered ++ "." ++ name

/-- The key of a container. A container that stands directly in a namespace is
set off by a bar, and one inside a type by a full stop. -/
def Ancestry.containerKey (path : Ancestry) (name : String) : String :=
  if path.isRoot then name
  else if path.types.isEmpty then path.render ++ "|" ++ name
  else path.render ++ "." ++ name

/-- The words a region marker is keyed by. -/
def Boundary.directive : Boundary → String
  | .start => "#region"
  | .stop => "#endregion"

namespace Entry

/-- The parameter text that goes into a key, its words one space apart. -/
def parameterKey (entry : Entry) : String :=
  match entry.signature with
  | some signature => Text.collapse signature.parameters
  | none => ""

/-- The directive and the name of a region, without blanks after them. -/
def regionKey (entry : Entry) : String :=
  let directive := match entry.region with
    | some marker => marker.boundary.directive
    | none => Boundary.start.directive
  String.ofList (Text.trimEnd (directive ++ " " ++ entry.name).toList)

/-- The identity a member would like to have. -/
def key (entry : Entry) : String :=
  match entry.kind with
  | .constructor | .method =>
    entry.parent.qualify entry.name ++ "(" ++ entry.parameterKey ++ ")"
  | .property | .field => entry.parent.qualify entry.name
  | .region => entry.parent.qualify entry.regionKey
  | .global | .classType | .interfaceType | .structType | .enumType | .genericType =>
    entry.parent.containerKey entry.name

end Entry

/-! ## Assignment -/

/-- A key with an ordinal after it. -/
def suffixed (key : String) (ordinal : Nat) : String :=
  key ++ "#" ++ String.ofList (Nat.toDigits 10 ordinal)

/-- The key itself if it is free, and otherwise its first free variant. Among the
variants with the ordinals `2` to `taken.length + 2` there is always a free one,
since there are more of them than keys taken. -/
def freeVariant (taken : List String) (key : String) : String :=
  if taken.contains key then
    let variants := (List.range (taken.length + 1)).map fun n => suffixed key (n + 2)
    (variants.find? fun variant => !taken.contains variant).getD key
  else key

/-- The key of an entry, or a token for an entry without one. -/
def Entry.keyOr (entry : Entry) (token : String) : String :=
  let key := entry.key
  if key.isEmpty then "member-" ++ token else key

mutual

/-- Assigns identities to a member and then to its descendants. The list holds the
identities given out so far, the last one first; its length tells which token is
next. -/
def Member.assignIds (tokens : Nat → String) (taken : List String) : Member → Member × List String
  | .node entry children =>
    let id := freeVariant taken (entry.keyOr (tokens taken.length))
    let (children, taken) := Forest.assignIdsFrom tokens (id :: taken) children
    (.node { entry with id := id } children, taken)

/-- Assigns identities to the members of a forest, one after the other. -/
def Forest.assignIdsFrom (tokens : Nat → String) (taken : List String) :
    Forest → Forest × List String
  | [] => ([], taken)
  | member :: rest =>
    let (member, taken) := member.assignIds tokens taken
    let (rest, taken) := Forest.assignIdsFrom tokens taken rest
    (member :: rest, taken)

end

/-- The forest with identities. `tokens n` is the token that the member in place `n`
of the preorder gets if it has no key. -/
def Forest.assignIds (tokens : Nat → String) (forest : Forest) : Forest :=
  (Forest.assignIdsFrom tokens [] forest).1

/-- The identities of a forest in preorder. -/
def Forest.ids (forest : Forest) : List String :=
  forest.entries.map Entry.id

end SourceOutline
