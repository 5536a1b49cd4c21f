/-
Trees as a parser builds them. Every symbol that is put together has a node here, also
those that are hidden later on. A node carries what is asked of it again and again: its
extent, how much is wrong inside it, and how many nodes in it appear.
-/
import SourceOutline.Automaton.Table
import SourceOutline.Parsing.Extent

set_option autoImplicit false

namespace SourceOutline.Parsing

open Automaton (Table)

/-- What a node is. -/
inductive Label where
  | symbol (number : Nat)
  /-- A stretch of text that fits nowhere. -/
  | fault
  /-- Tokens that are passed over, on the way to such a stretch. -/
  | skipped
deriving DecidableEq

/-- Whether a node stands for text that fits nowhere. -/
def Label.isFault : Label → Bool
  | symbol _ => false
  | fault | skipped => true

/-- Everything about a node but its children. A token that a scanner found carries the
state of the scanner behind it. -/
structure TreeInfo (σ : Type) where
  label : Label
  /-- What stands in front of it. -/
  padding : Extent := {}
  size : Extent := {}
  /-- Whether it is not in the text but has to be. -/
  isMissing : Bool := false
  /-- Whether it may stand between any two tokens. -/
  isExtra : Bool := false
  /-- Whether it is a word that is spelled like a keyword. -/
  isKeyword : Bool := false
  scanned : Option σ := none
  /-- Whether the token changed the state of the scanner. -/
  movesScanner : Bool := false
  /-- The state in which the token was read. -/
  readIn : Nat := 0
  /-- What is said about the children. -/
  info : Nat := 0
  weight : Int := 0
  /-- How bad the faults inside are. -/
  faultCost : Nat := 0
  childCount : Nat := 0
  /-- How many nodes inside appear. -/
  visibleInside : Nat := 0
  /-- How many of them appear as children. -/
  visibleChildren : Nat := 0

/-- A node with its children, in the order of the text. -/
inductive Tree (σ : Type) where
  | node (info : TreeInfo σ) (children : List (Tree σ))

/-! ## What faults cost -/

/-- The cost of each fault. -/
def faultCost : Nat := 500

/-- The cost of a token that is missing, apart from the fault. -/
def missingCost : Nat := 110

/-- The cost of each node that is passed over. -/
def skippedNodeCost : Nat := 100

/-- The cost of each line break that is passed over. -/
def skippedLineCost : Nat := 30

namespace Tree

variable {σ : Type}

/-- What the node is. -/
def info : Tree σ → TreeInfo σ
  | node info _ => info

/-- The nodes inside. -/
def children : Tree σ → List (Tree σ)
  | node _ children => children

/-- What the node stands for. -/
def label (t : Tree σ) : Label := t.info.label

/-- A node without children. -/
def leaf (info : TreeInfo σ) : Tree σ := node info []

/-- The same node, as one that may stand between tokens. -/
def asExtra : Tree σ → Tree σ
  | node info children => node { info with isExtra := true } children

/-- The same node with more weight. -/
def weighted (weight : Int) : Tree σ → Tree σ
  | node info children => node { info with weight := info.weight + weight } children

/-- The same node under another symbol. -/
def relabelled (symbol : Nat) : Tree σ → Tree σ
  | node info children => node { info with label := .symbol symbol } children

/-- The extent of a node with what stands in front of it. -/
def total (t : Tree σ) : Extent := t.info.padding + t.info.size

/-- How bad the faults in a node are, itself included. -/
def cost (t : Tree σ) : Nat :=
  if t.info.isMissing then missingCost + faultCost else t.info.faultCost

end Tree

/-- Whether the nodes of a label appear. -/
def isShown (table : Table) : Label → Bool
  | .symbol number => table.visible.getD number false
  | .fault => true
  | .skipped => false

/-- The alias of a child that is not an extra one, by its place among those. -/
def aliasAt (table : Table) (info place : Nat) : Option Grammar.Alias :=
  ((table.infos[info]?).bind fun one => one.aliases[place]?).join

/-- The number of nodes a tree adds to a stack. -/
def nodeCount {σ : Type} (table : Table) (t : Tree σ) : Nat :=
  t.info.visibleInside
    + (if isShown table t.label then 1 else 0) + (if t.label = .skipped then 1 else 0)

/-! ## Putting nodes together -/

/-- What a child that is passed over costs beyond its own faults. -/
def passedOver {σ : Type} (table : Table) (t : Tree σ) : Nat :=
  if t.info.isExtra || (t.label = .fault && t.info.childCount = 0) then 0
  else if isShown table t.label then skippedNodeCost
  else skippedNodeCost * t.info.visibleChildren

/-- Adds one more child to what is known of a node. `place` counts the children that are
not extra ones. -/
def addChild {σ : Type} (table : Table) (known : TreeInfo σ) (place : Nat) (t : Tree σ) :
    TreeInfo σ × Nat :=
  let child := t.info
  let named := !child.isExtra && t.label ≠ .symbol table.grammar.textEnd
    && (aliasAt table known.info place).isSome
  let appears := named || isShown table t.label
  let own := (if t.label = .skipped then 0 else t.cost)
    + if known.label.isFault then passedOver table t else 0
  ({ known with
      padding := if known.childCount = 0 then child.padding else known.padding
      size := if known.childCount = 0 then child.size else known.size + t.total
      weight := known.weight + child.weight
      faultCost := known.faultCost + own
      childCount := known.childCount + 1
      visibleInside := known.visibleInside + child.visibleInside + if appears then 1 else 0
      visibleChildren := known.visibleChildren + if appears then 1 else child.visibleChildren },
    if child.isExtra then place else place + 1)

/-- Puts nodes together. -/
def compose {σ : Type} (table : Table) (label : Label) (info : Nat) (children : List (Tree σ)) :
    Tree σ :=
  let (known, _) := children.foldl (fun (known, place) t => addChild table known place t)
    (({ label, info } : TreeInfo σ), 0)
  let own := if label.isFault then
      faultCost + known.size.bytes + skippedLineCost * known.size.rows
    else 0
  .node { known with faultCost := known.faultCost + own } children

/-- Splits off the extra nodes at the end of a list. -/
def splitExtras {σ : Type} (trees : List (Tree σ)) : List (Tree σ) × List (Tree σ) :=
  let extras := trees.reverse.takeWhile (·.info.isExtra)
  (trees.take (trees.length - extras.length), extras.reverse)

/-! ## Which of two trees is better -/

/-- The place of a label in the order of labels. -/
def rank (table : Table) : Label → Nat
  | .symbol number => table.ranks.getD number 0
  | .skipped => table.ranks.size
  | .fault => table.ranks.size + 1

/-- Compares pairs of trees, from the outside to the inside and from the left to the
right. The fuel bounds the number of pairs. -/
def compareTrees {σ : Type} (table : Table) : Nat → List (Tree σ × Tree σ) → Ordering
  | 0, _ => .eq
  | _, [] => .eq
  | fuel + 1, (a, b) :: pending =>
    let here := (compare (rank table a.label) (rank table b.label)).then
      (compare a.info.childCount b.info.childCount)
    if here = .eq then compareTrees table fuel (a.children.zip b.children ++ pending) else here

/-- Whether to take the second of two trees for the same text: the one with fewer faults,
then the one with more weight, then the one that comes first in the order of trees. With
faults in both it is the second. -/
def prefersSecond {σ : Type} (table : Table) (a b : Tree σ) : Bool :=
  if b.cost ≠ a.cost then b.cost < a.cost
  else if b.info.weight ≠ a.info.weight then a.info.weight < b.info.weight
  else if 0 < a.cost then true
  else compareTrees table 1000000000 [(a, b)] = .gt

end SourceOutline.Parsing
