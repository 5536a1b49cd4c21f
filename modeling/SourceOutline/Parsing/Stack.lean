/-
The stack of a parser that follows several readings of a text at once. Readings that
come to the same state at the same place share what comes after, and readings that
began alike share what was before, so the stack is a graph: each node stands for a
state, and its links lead back to the nodes before it, each over the tree that lies
between.

The readings that are alive are the versions of the stack, in the order in which they
are followed.
-/
import SourceOutline.Parsing.Tree

set_option autoImplicit false

namespace SourceOutline.Parsing

open Automaton (Table)

/-- A step back on the stack. Without a tree it marks a place where nothing fitted. -/
structure Link (σ : Type) where
  node : Nat
  tree : Option (Tree σ)

/-- A state on the stack. -/
structure StackNode (σ : Type) where
  state : Nat
  place : Extent := {}
  links : Array (Link σ) := #[]
  /-- How bad the faults are up to here. -/
  cost : Nat := 0
  /-- How many nodes there are up to here. -/
  nodes : Nat := 0
  weight : Int := 0

/-- A state that was passed on the way to a fault, and how many trees above it. -/
structure Past where
  place : Extent
  depth : Nat
  state : Nat

/-- What is to be done with a version. -/
inductive Status (σ : Type) where
  | active
  /-- Nothing fits the next token, but others may know better. -/
  | paused (lookahead : Tree σ)
  | halted

/-- Whether the version goes on. -/
def Status.isActive {σ : Type} : Status σ → Bool
  | active => true
  | _ => false

/-- Whether the version waits. -/
def Status.isPaused {σ : Type} : Status σ → Bool
  | paused _ => true
  | _ => false

/-- Whether the version is given up. -/
def Status.isHalted {σ : Type} : Status σ → Bool
  | halted => true
  | _ => false

/-- One reading of the text. -/
structure Version (σ : Type) where
  node : Nat
  /-- The state of the scanner, if it found anything yet. -/
  scanned : Option σ := none
  /-- How many nodes there were at the last fault. -/
  nodesAtFault : Nat := 0
  /-- The states passed before the last fault. -/
  past : Option (Array Past) := none
  status : Status σ := .active

/-- The nodes and the versions. -/
structure Stack (σ : Type) where
  nodes : Array (StackNode σ)
  versions : Array (Version σ)

/-- Trees taken off the stack, and the version that lies below them. -/
structure Slice (σ : Type) where
  trees : List (Tree σ)
  version : Nat

namespace Stack

variable {σ : Type}

/-- The stack at the beginning of a text, with one version in a state. -/
def start (state : Nat) : Stack σ := ⟨#[{ state }], #[{ node := 0 }]⟩

/-- A node. -/
def node (s : Stack σ) (number : Nat) : StackNode σ := s.nodes.getD number { state := 0 }

/-- A version. -/
def version (s : Stack σ) (v : Nat) : Version σ := s.versions.getD v { node := 0 }

/-- The node on top of a version. -/
def top (s : Stack σ) (v : Nat) : StackNode σ := s.node (s.version v).node

/-- The state of a version. -/
def state (s : Stack σ) (v : Nat) : Nat := (s.top v).state

/-- The number of versions. -/
def size (s : Stack σ) : Nat := s.versions.size

/-- Changes a version. -/
def modify (s : Stack σ) (v : Nat) (f : Version σ → Version σ) : Stack σ :=
  { s with versions := s.versions.modify v f }

/-- Takes a version away. -/
def remove (s : Stack σ) (v : Nat) : Stack σ :=
  { s with versions := s.versions.eraseIdxIfInBounds v }

/-- Gives a version up. It is taken away later. -/
def halt (s : Stack σ) (v : Nat) : Stack σ := s.modify v fun one => { one with status := .halted }

/-- Puts one version in the place of another. -/
def replace (s : Stack σ) (source target : Nat) : Stack σ :=
  if source = target then s
  else
    let one := s.version source
    let one := { one with past := one.past.or (s.version target).past }
    (s.modify target fun _ => one).remove source

/-- Changes the places of two versions. -/
def swap (s : Stack σ) (a b : Nat) : Stack σ :=
  { s with versions := s.versions.swapIfInBounds a b }

/-- Adds a copy of a version, which knows nothing of the states it passed. -/
def copy (s : Stack σ) (v : Nat) : Stack σ :=
  { s with versions := s.versions.push { s.version v with past := none } }

/-! ## Putting trees on -/

/-- A node above another, with a tree between them. -/
def above (table : Table) (s : Stack σ) (below : Nat) (tree : Option (Tree σ)) (state : Nat) :
    StackNode σ :=
  let old := s.node below
  let links := #[⟨below, tree⟩]
  match tree with
  | some t =>
    { state, links
      place := old.place + t.total
      cost := old.cost + t.cost
      nodes := old.nodes + nodeCount table t
      weight := old.weight + t.info.weight }
  | none => { old with state, links }

/-- Puts a tree on a version. Without a tree it marks a fault. -/
def push (table : Table) (s : Stack σ) (v : Nat) (tree : Option (Tree σ)) (state : Nat) :
    Stack σ :=
  let fresh := above table s (s.version v).node tree state
  let number := s.nodes.size
  { nodes := s.nodes.push fresh
    versions := s.versions.modify v fun one =>
      { one with
        node := number
        nodesAtFault := if tree.isNone then fresh.nodes else one.nodesAtFault } }

/-- Puts trees on a version one after the other, all of them in the same state. -/
def pushAll (table : Table) (s : Stack σ) (v : Nat) (trees : List (Tree σ)) (state : Nat) :
    Stack σ :=
  trees.foldl (fun s t => s.push table v (some t) state) s

/-! ## Joining versions -/

variable [DecidableEq σ]

/-- Whether two trees are the same as far as a stack can tell. Those with faults are, if
they have the same label. -/
def isSameTree (a b : Tree σ) : Bool :=
  a.label = b.label
    && ((0 < a.cost && 0 < b.cost)
      || (a.info.padding.bytes = b.info.padding.bytes && a.info.size.bytes = b.info.size.bytes
        && a.info.childCount = b.info.childCount && a.info.isExtra = b.info.isExtra
        && a.info.scanned = b.info.scanned))

/-- Whether two links are the same apart from the nodes they lead to. -/
def isSameLink : Option (Tree σ) → Option (Tree σ) → Bool
  | none, none => true
  | some a, some b => isSameTree a b
  | _, _ => false

/-- The weight of a link and all before it. -/
def linkWeight (s : Stack σ) (link : Link σ) : Int :=
  (s.node link.node).weight + link.tree.elim 0 (·.info.weight)

/-- What a new link has to do with one that is there. -/
inductive Meeting where
  /-- They lead to the same node. -/
  | same (place : Nat)
  /-- They lead to nodes that can be joined. -/
  | joinable (place : Nat)
  | none

/-- Looks for a link that a new one can be joined with. -/
def meeting (s : Stack σ) (links : Array (Link σ)) (link : Link σ) : Meeting :=
  let joinable (a b : StackNode σ) : Bool :=
    a.state = b.state && a.place.bytes = b.place.bytes && a.cost = b.cost
  let found := links.findIdx? fun old =>
    isSameLink old.tree link.tree
      && (old.node = link.node || joinable (s.node old.node) (s.node link.node))
  match found with
  | some place =>
    if (links.getD place link).node = link.node then .same place else .joinable place
  | Option.none => .none

/-- The most links that a node can have. -/
def maxLinks : Nat := 8

/-- Adds a link to a node. If it meets another, the nodes below are joined instead. The
fuel bounds the depth. -/
def addLink (table : Table) : Nat → Stack σ → Nat → Link σ → Stack σ
  | 0, s, _, _ => s
  | fuel + 1, s, number, link =>
    let node := s.node number
    if link.node = number then s
    else
      let update (s : Stack σ) (f : StackNode σ → StackNode σ) : Stack σ :=
        { s with nodes := s.nodes.modify number f }
      match meeting s node.links link with
      | .same place =>
        let old := ((node.links[place]?).bind (·.tree)).elim 0 (·.info.weight)
        let weight := linkWeight s link
        if link.tree.any fun t => old < t.info.weight then
          update s fun node =>
            { node with
              links := node.links.modify place fun one => { one with tree := link.tree }
              weight }
        else s
      | .joinable place =>
        let below := (node.links.getD place link).node
        let s := (s.node link.node).links.foldl
          (fun s one => addLink table fuel s below one) s
        let weight := linkWeight s link
        update s fun node => { node with weight := max node.weight weight }
      | .none =>
        if maxLinks ≤ node.links.size then s
        else
          let count := (s.node link.node).nodes + link.tree.elim 0 (nodeCount table)
          let weight := linkWeight s link
          update s fun node =>
            { node with
              links := node.links.push link
              nodes := max node.nodes count
              weight := max node.weight weight }

/-- Whether two versions are in the same state at the same place, with the same faults. -/
def canMerge (s : Stack σ) (a b : Nat) : Bool :=
  let x := s.top a
  let y := s.top b
  (s.version a).status.isActive && (s.version b).status.isActive
    && x.state = y.state && x.place.bytes = y.place.bytes && x.cost = y.cost
    && (s.version a).scanned = (s.version b).scanned

/-- Joins the second of two versions with the first. -/
def merge (table : Table) (s : Stack σ) (a b : Nat) : Stack σ :=
  let target := (s.version a).node
  let depth := s.nodes.size
  let joined := (s.top b).links.foldl (fun s link => addLink table depth s target link) s
  let count := (joined.top a).nodes
  let joined := if joined.state a = 0 then
      joined.modify a fun one => { one with nodesAtFault := count }
    else joined
  joined.remove b

/-- Joins a version with the first of some others with which that is possible. The answer
says whether there is one. -/
def mergeIntoAny (table : Table) (s : Stack σ) (v : Nat) (others : List Nat) :
    Bool × Stack σ :=
  match others.find? fun other => s.canMerge other v with
  | some other => (true, s.merge table other v)
  | none => (false, s)

/-! ## Taking trees off -/

/-- A way back along the stack. -/
structure Walk (σ : Type) where
  node : Nat
  /-- The trees passed, the lowest first. -/
  trees : List (Tree σ) := []
  /-- How many of them are not extra ones. -/
  count : Nat := 0

/-- One step back. -/
def Walk.step (walk : Walk σ) (link : Link σ) : Walk σ :=
  { node := link.node
    trees := link.tree.toList ++ walk.trees
    count := if link.tree.any (·.info.isExtra) then walk.count else walk.count + 1 }

/-- What to do on a walk. -/
structure Decision where
  /-- Take off what has been passed. -/
  take : Bool
  /-- Go no further. -/
  stop : Bool

/-- Puts a slice behind the last one with the same node below, or makes a version for
it. -/
def addSlice (s : Stack σ) (origin : Nat) (walk : Walk σ) (slices : Array (Slice σ)) :
    Array (Slice σ) × Stack σ :=
  let same := (List.range slices.size).reverse.find? fun place =>
    match slices[place]? with
    | some slice => (s.version slice.version).node = walk.node
    | none => false
  match same with
  | some place =>
    let version := (slices.getD place ⟨[], 0⟩).version
    (slices.insertIdxIfInBounds (place + 1) ⟨walk.trees, version⟩, s)
  | none =>
    let old := s.version origin
    let count := s.versions.size
    (slices.push ⟨walk.trees, count⟩,
      { s with
        versions := s.versions.push
          { node := walk.node, scanned := old.scanned, nodesAtFault := old.nodesAtFault } })

/-- The most walks at a time. -/
def maxWalks : Nat := 64

/-- Where a walk goes on: over the first link, and over the others as far as there is
room for more walks. `others` is the number of walks apart from this one. -/
def branch (s : Stack σ) (walk : Walk σ) (others : Nat) : List (Walk σ) × List (Walk σ) :=
  match (s.node walk.node).links.toList with
  | [] => ([], [])
  | first :: rest =>
    ([walk.step first], (rest.take (maxWalks - 1 - others)).map walk.step)

/-- One step for each of some walks. `decide` may keep a memory of its own. -/
def stepAll {β : Type} (decide : β → Stack σ → Walk σ → β × Decision) (origin : Nat) :
    List (Walk σ) → List (Walk σ) → List (Walk σ) → β → Array (Slice σ) → Stack σ →
      List (Walk σ) × β × Array (Slice σ) × Stack σ
  | [], kept, added, memory, slices, s => (kept.reverse ++ added, memory, slices, s)
  | walk :: rest, kept, added, memory, slices, s =>
    let (memory, decision) := decide memory s walk
    let (slices, s) := if decision.take then s.addSlice origin walk slices else (slices, s)
    if decision.stop then stepAll decide origin rest kept added memory slices s
    else
      let (first, others) := s.branch walk (kept.length + rest.length + added.length)
      stepAll decide origin rest (first ++ kept) (added ++ others) memory slices s

/-- Steps until all walks have come to an end. The fuel bounds the number of steps. -/
def walkAll {β : Type} (decide : β → Stack σ → Walk σ → β × Decision) (origin : Nat) :
    Nat → List (Walk σ) → β → Array (Slice σ) → Stack σ → β × Array (Slice σ) × Stack σ
  | 0, _, memory, slices, s => (memory, slices, s)
  | _, [], memory, slices, s => (memory, slices, s)
  | fuel + 1, walks, memory, slices, s =>
    match stepAll decide origin walks [] [] memory slices s with
    | (walks, memory, slices, s) => walkAll decide origin fuel walks memory slices s

/-- Walks back from a version. -/
def walkFrom {β : Type} (decide : β → Stack σ → Walk σ → β × Decision) (memory : β)
    (s : Stack σ) (v : Nat) : β × Array (Slice σ) × Stack σ :=
  walkAll decide v (s.nodes.size + 1) [{ node := (s.version v).node }] memory #[] s

/-- Takes a number of trees off a version, not counting extra ones. -/
def pop (s : Stack σ) (v count : Nat) : Array (Slice σ) × Stack σ :=
  (s.walkFrom (fun (memory : Unit) _ walk =>
    (memory, if walk.count = count then ⟨true, true⟩ else ⟨false, false⟩)) () v).2

/-- Takes all trees off a version. -/
def popAll (s : Stack σ) (v : Nat) : Array (Slice σ) × Stack σ :=
  (s.walkFrom (fun (memory : Unit) s walk =>
    (memory, if (s.node walk.node).links.isEmpty then ⟨true, true⟩ else ⟨false, false⟩)) () v).2

/-- Takes a fault off the top of a version. The answer is what lies inside it. -/
def popFault (s : Stack σ) (v : Nat) : List (Tree σ) × Stack σ :=
  let isFault (t : Tree σ) : Bool := t.label = .fault
  if (s.top v).links.any fun link => link.tree.any isFault then
    let (_, slices, s) := s.walkFrom (fun found _ walk =>
      match walk.trees with
      | [] => (found, ⟨false, false⟩)
      | t :: _ =>
        if !found && isFault t then (true, ⟨true, true⟩) else (found, ⟨false, true⟩)) false v
    match slices[0]? with
    | some slice =>
      let s := s.replace slice.version v
      (slice.trees.head?.elim [] Tree.children, s)
    | none => ([], s)
  else ([], s)

/-- How far back the states before a fault are kept. -/
def maxDepth : Nat := 16

/-- Notes a state that was passed, unless it is known at that depth. -/
def notePast (past : Array Past) (one : Past) : Array Past :=
  let known := (past.toList.reverse.takeWhile fun old => one.depth ≤ old.depth).any fun old =>
    old.depth = one.depth && old.state = one.state
  if known then past else past.push one

/-- Notes the states below a version. -/
def recordPast (s : Stack σ) (v : Nat) : Stack σ :=
  let (past, _, s) := s.walkFrom (fun past s walk =>
    if maxDepth < walk.count then (past, ⟨false, true⟩)
    else
      let node := s.node walk.node
      (notePast past ⟨node.place, walk.count, node.state⟩, ⟨false, false⟩)) #[] v
  s.modify v fun one => { one with past := some past }

/-! ## Measures -/

/-- Corrects the number of nodes at the last fault, which may have been taken off. -/
def settleCount (s : Stack σ) (v : Nat) : Stack σ :=
  let count := (s.top v).nodes
  if count < (s.version v).nodesAtFault then
    s.modify v fun one => { one with nodesAtFault := count }
  else s

/-- The number of nodes since the last fault. -/
def nodesSince (s : Stack σ) (v : Nat) : Nat := (s.top v).nodes - (s.version v).nodesAtFault

/-- How bad the faults of a version are, counting the one it is in. -/
def cost (s : Stack σ) (v : Nat) : Nat :=
  let top := s.top v
  let atMark := top.state = 0 && top.links[0]?.any fun link => link.tree.isNone
  top.cost + if (s.version v).status.isPaused || atMark then faultCost else 0

/-- Whether any text was read since the last fault. Goes back over trees without text. -/
def hasAdvancedFrom (s : Stack σ) (nodesAtFault : Nat) : Nat → Nat → Bool
  | 0, _ => false
  | fuel + 1, number =>
    let node := s.node number
    match node.links[0]? with
    | none => false
    | some link =>
      link.tree.any fun t =>
        0 < t.total.bytes
          || (nodesAtFault < node.nodes && t.cost = 0
            && hasAdvancedFrom s nodesAtFault fuel link.node)

/-- Whether any text was read since the last fault. -/
def hasAdvanced (s : Stack σ) (v : Nat) : Bool :=
  (s.top v).cost = 0
    || s.hasAdvancedFrom (s.version v).nodesAtFault s.nodes.size (s.version v).node

end Stack

end SourceOutline.Parsing
