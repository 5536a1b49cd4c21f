/-
The tree of a text as it appears from outside: hidden nodes are gone, and their children
stand in their place. A node knows where it lies and under which name it appears.
-/
import SourceOutline.Parsing.Run

set_option autoImplicit false

namespace SourceOutline.Parsing

open Automaton (Table)

variable {σ : Type}

/-- A node at its place in a text. The place is where what stands in front of it begins. -/
structure Node (σ : Type) where
  tree : Tree σ
  place : Extent := {}
  shownAs : Option Grammar.Alias := none

/-! ## Children -/

/-- A tree that is waiting for its turn, with its alias. -/
structure Waiting (σ : Type) where
  tree : Tree σ
  shownAs : Option Grammar.Alias

/-- The children of a node with their aliases. Extra ones have none. -/
def withAliases (table : Table) (info : Nat) : Nat → List (Tree σ) → List (Waiting σ)
  | _, [] => []
  | place, t :: rest =>
    if t.info.isExtra then ⟨t, none⟩ :: withAliases table info place rest
    else ⟨t, aliasAt table info place⟩ :: withAliases table info (place + 1) rest

/-- The size of all trees that are waiting. -/
noncomputable def waitingSize : List (Waiting σ) → Nat
  | [] => 0
  | first :: rest => sizeOf first.tree + waitingSize rest

theorem waitingSize_append (first second : List (Waiting σ)) :
    waitingSize (first ++ second) = waitingSize first + waitingSize second := by
  induction first with
  | nil => rw [List.nil_append, waitingSize, Nat.zero_add]
  | cons w rest ih => rw [List.cons_append, waitingSize, waitingSize, ih, Nat.add_assoc]

theorem waitingSize_withAliases (table : Table) (info place : Nat) (trees : List (Tree σ)) :
    waitingSize (withAliases table info place trees) ≤ sizeOf trees := by
  induction trees generalizing place with
  | nil => exact Nat.zero_le _
  | cons t rest ih =>
    rw [List.cons.sizeOf_spec, withAliases]
    split
    · have := ih place
      simp only [waitingSize]
      omega
    · have := ih (place + 1)
      simp only [waitingSize]
      omega

/-- The nodes that appear for some trees side by side, in front of those found before. -/
def appearing (table : Table) (place : Extent) :
    List (Waiting σ) → List (Node σ) → List (Node σ)
  | [], found => found.reverse
  | ⟨.node info children, shownAs⟩ :: rest, found =>
    let t : Tree σ := .node info children
    if shownAs.isSome || isShown table info.label then
      appearing table (place + t.total) rest (⟨t, place, shownAs⟩ :: found)
    else if info.visibleChildren = 0 then appearing table (place + t.total) rest found
    else appearing table place (withAliases table info.info 0 children ++ rest) found
termination_by waiting => waitingSize waiting
decreasing_by
  all_goals simp only [waitingSize, waitingSize_append, Tree.node.sizeOf_spec]
  · omega
  · omega
  · have := waitingSize_withAliases table info.info 0 children
    omega

namespace Node

/-- Where the node itself begins. -/
def start (n : Node σ) : Extent := n.place + n.tree.info.padding

/-- Where the node ends. -/
def stop (n : Node σ) : Extent := n.place + n.tree.total

/-- The name under which the node appears. A fault has none. -/
def name? (table : Table) (n : Node σ) : Option String :=
  match n.shownAs, n.tree.label with
  | some shownAs, _ => some shownAs.name
  | none, .symbol number => some (table.grammar.nameOf number)
  | none, _ => none

/-- The nodes that appear inside. -/
def children (table : Table) (n : Node σ) : List (Node σ) :=
  appearing table n.place (withAliases table n.tree.info.info 0 n.tree.children) []

/-- The text of the node. -/
def text (source : String) (n : Node σ) : String :=
  String.Pos.Raw.extract source ⟨n.start.bytes⟩ ⟨n.stop.bytes⟩

end Node

/-! ## Fields -/

/-- The children that a production gives a field, with whether the field lies further
inside. -/
def fieldPlaces (table : Table) (info : Nat) (field : String) : List (Nat × Bool) :=
  match table.infos[info]? with
  | some one => one.fields.filterMap fun (name, place, isInside) =>
    if name = field then some (place, isInside) else none
  | none => []

mutual

/-- The node of a field in a tree. -/
def fieldIn (table : Table) (field : String) (place : Extent) : Tree σ → Option (Node σ)
  | .node info children =>
    fieldAmong table field info.info place 0 (fieldPlaces table info.info field) children

/-- The node of a field among the children of a tree. Of the children that may have it, the
first that shows anything does. -/
def fieldAmong (table : Table) (field : String) (info : Nat) (place : Extent) (index : Nat) :
    List (Nat × Bool) → List (Tree σ) → Option (Node σ)
  | _, [] => none
  | [], _ :: _ => none
  | (wanted, isInside) :: more, t :: rest =>
    let behind := place + t.total
    if t.info.isExtra then
      fieldAmong table field info behind index ((wanted, isInside) :: more) rest
    else if index < wanted then
      fieldAmong table field info behind (index + 1) ((wanted, isInside) :: more) rest
    else if isInside then
      match fieldIn table field place t with
      | some found => some found
      | none => fieldAmong table field info behind (index + 1) more rest
    else
      match appearing table place [⟨t, aliasAt table info index⟩] [] with
      | found :: _ => some found
      | [] => fieldAmong table field info behind (index + 1) more rest

end

/-- The node of a field. -/
def Node.field? (table : Table) (field : String) (n : Node σ) : Option (Node σ) :=
  fieldIn table field n.place n.tree

end SourceOutline.Parsing
