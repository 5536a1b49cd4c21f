/-
The canonical automaton of a grammar: states are sets of items, each item with the
tokens that may come after it.

Many states have the same items and differ only in the tokens. What depends on the
items alone is worked out once for all of them: which items the kernel leads to, into
how many classes they fall by the tokens that may follow, and where each symbol leads.
For a single state it then remains to work out one set of tokens for each class.
-/
import SourceOutline.Automaton.Item
import SourceOutline.Automaton.TokenSet

set_option autoImplicit false

namespace SourceOutline.Automaton

/-! ## What a variable brings with it -/

/-- A variable that another brings into a state: with tokens that come after it in any
case, and perhaps also with those that come after the other. -/
structure Addition where
  symbol : Nat
  following : Nat
  inherits : Bool

/-- How a variable leads to the variables at the front of its productions: what comes
after them, or nothing if what comes after the variable itself does. -/
def leads (g : Grammar) (first : Array Nat) (symbol : Nat) : List (Nat × Option Nat) :=
  ((g.productionsOf symbol).filterMap fun production =>
    match production.steps with
    | [] => none
    | [only] => if g.isVariable only.symbol then some (only.symbol, none) else none
    | front :: second :: _ =>
      if g.isVariable front.symbol then some (front.symbol, some (first.getD second.symbol 0))
      else none).eraseDups

/-- What is known of the variables that one brings with it: for each that is present the
tokens after it, and whether it inherits. -/
abbrev Reached := Array (Option (Nat × Bool))

/-- Follows the leads until nothing is added. The fuel bounds the number of steps. -/
def follow (leadsOf : Array (List (Nat × Option Nat))) :
    Nat → List (Nat × Nat × Bool) → Reached → Reached
  | 0, _, reached => reached
  | _, [], reached => reached
  | fuel + 1, (symbol, following, inherits) :: pending, reached =>
    let (old, oldInherits, isNew) := match (reached[symbol]?).join with
      | some (old, oldInherits) => (old, oldInherits, false)
      | none => (0, false, true)
    let both := old ||| following
    let either := oldInherits || inherits
    if !isNew && both = old && either = oldInherits then follow leadsOf fuel pending reached
    else
      let more := (leadsOf.getD symbol []).map fun (next, after) =>
        match after with
        | some tokens => (next, tokens, false)
        | none => (next, following, inherits)
      follow leadsOf fuel (more ++ pending) (reached.setIfInBounds symbol (some (both, either)))

/-- For each symbol the variables it brings with it. -/
def additions (g : Grammar) (first : Array Nat) : Array (List Addition) :=
  let symbols := List.range g.symbolCount
  let leadsOf := (symbols.map (leads g first)).toArray
  let none : Reached := Array.replicate g.symbolCount none
  let of (symbol : Nat) : List Addition :=
    if g.isVariable symbol then
      let reached := follow leadsOf (g.symbolCount * g.symbolCount) [(symbol, 0, true)] none
      symbols.filterMap fun one =>
        ((reached[one]?).join).map fun (following, inherits) => ⟨one, following, inherits⟩
    else []
  (symbols.map of).toArray

/-! ## Cores -/

/-- The tokens that may come after some items of a state: a fixed set, and what comes
after some items of the kernel. -/
structure FollowClass where
  fixed : Nat
  kernel : List Nat
deriving DecidableEq

/-- Where a symbol leads: to a state with that core, and each item of it takes its tokens
from some classes. -/
structure Move where
  symbol : Nat
  core : Nat
  sources : Array (List Nat)

/-- A set of items without tokens. -/
structure Core where
  /-- The items from which the others follow. -/
  kernel : Array Nat
  classes : Array FollowClass
  /-- Where the symbols lead, in the order of the symbols. -/
  moves : Array Move
  /-- The items that are read to their end, in their order, with their classes. -/
  reductions : Array (Nat × Nat)

/-- The classes of the variables that a kernel brings with it. -/
def followClasses (items : Items) (first : Array Nat) (additionsOf : Array (List Addition))
    (kernel : Array Nat) : List (Nat × FollowClass) :=
  let add (table : Array (Option FollowClass)) (position item : Nat) :
      Array (Option FollowClass) :=
    match (items.next[item]?).join with
    | none => table
    | some symbol =>
      let after := (items.next[items.advanced.getD item 0]?).join
      (additionsOf.getD symbol []).foldl (fun table one =>
        table.modify one.symbol fun old =>
          let old := old.getD ⟨0, []⟩
          let fixed := old.fixed ||| one.following
          if !one.inherits then some ⟨fixed, old.kernel⟩
          else match after with
            | some next => some ⟨fixed ||| first.getD next 0, old.kernel⟩
            | none => some ⟨fixed, old.kernel ++ [position]⟩) table
  let table := kernel.zipIdx.foldl (fun table (item, position) => add table position item)
    (Array.replicate first.size none)
  table.toList.zipIdx.filterMap fun (entry, symbol) => entry.map fun one => (symbol, one)

/-- The items of a core with their classes, in the order of the items. -/
def coreItems (items : Items) (first : Array Nat) (additionsOf : Array (List Addition))
    (kernel : Array Nat) : List (Nat × FollowClass) :=
  let own := kernel.toList.zipIdx.map fun (item, position) =>
    (item, (⟨0, [position]⟩ : FollowClass))
  let brought := (followClasses items first additionsOf kernel).flatMap fun (symbol, one) =>
    (items.starts.getD symbol []).map fun item => (item, one)
  (own ++ brought).mergeSort fun a b => a.1 ≤ b.1

/-- Puts neighbours with the same first part together. -/
def groupSorted {α : Type} : List (Nat × α) → List (Nat × List α)
  | [] => []
  | (key, value) :: rest =>
    match groupSorted rest with
    | (other, values) :: groups =>
      if key = other then (key, value :: values) :: groups
      else (key, [value]) :: (other, values) :: groups
    | [] => [(key, [value])]

/-- Where the symbols lead from some items with numbered classes: for each symbol the
items of the next kernel, with the classes they take their tokens from. -/
def successors (items : Items) (numbered : List (Nat × Nat)) : List (Nat × List (Nat × List Nat)) :=
  let steps := numbered.filterMap fun (item, number) =>
    ((items.next[item]?).join).map fun symbol => (symbol, items.advanced.getD item 0, number)
  let sorted := steps.mergeSort fun a b => a.1 < b.1 || (a.1 = b.1 && a.2.1 ≤ b.2.1)
  (groupSorted sorted).map fun (symbol, targets) => (symbol, groupSorted targets)

/-! ## States -/

/-- A state: its core, and for each item of the kernel the number of the set of tokens
that may come after it. -/
structure State where
  core : Nat
  following : Array Nat
deriving BEq, Hashable

/-- The canonical automaton as far as it is built. The states up to a point have their
successors and the tokens of their reductions. -/
structure Canonical where
  sets : TokenSets := {}
  kernels : Array (Array Nat) := #[]
  coreNumbers : Std.HashMap (Array Nat) Nat := ∅
  cores : Array (Option Core) := #[]
  states : Array State := #[]
  stateNumbers : Std.HashMap State Nat := ∅
  /-- For each state the states its core's moves lead to. -/
  targets : Array (Array Nat) := #[]
  /-- For each state the sets of tokens of its core's reductions. -/
  reductionSets : Array (Array Nat) := #[]

namespace Canonical

/-- Sees to it that a kernel has a number. -/
def addKernel (c : Canonical) (kernel : Array Nat) : Canonical :=
  if c.coreNumbers.contains kernel then c
  else
    { c with
      coreNumbers := c.coreNumbers.insert kernel c.kernels.size
      kernels := c.kernels.push kernel
      cores := c.cores.push none }

/-- The number of a state, which is a new one if the state was not met before. -/
def addState (c : Canonical) (state : State) : Nat × Canonical :=
  match c.stateNumbers[state]? with
  | some number => (number, c)
  | none =>
    (c.states.size,
      { c with
        stateNumbers := c.stateNumbers.insert state c.states.size
        states := c.states.push state })

/-- A state given by its items and sets of tokens. -/
def addItems (c : Canonical) (items : List (Nat × Nat)) : Nat × Canonical :=
  let kernel := (items.map Prod.fst).toArray
  let c := c.addKernel kernel
  let c := { c with sets := items.foldl (fun sets (one : Nat × Nat) => sets.add one.2) c.sets }
  let following := (items.map fun one => c.sets.number one.2).toArray
  c.addState ⟨c.coreNumbers.getD kernel 0, following⟩

/-- Works out a core. The kernels it leads to get their numbers in the order of the
symbols. -/
def buildCore (items : Items) (first : Array Nat) (additionsOf : Array (List Addition))
    (c : Canonical) (number : Nat) : Canonical :=
  let kernel := c.kernels.getD number #[]
  let found := coreItems items first additionsOf kernel
  let c := { c with
    sets := found.foldl (fun sets (one : Nat × FollowClass) => sets.add one.2.fixed) c.sets }
  let classes := (found.map Prod.snd).eraseDups
  let numbered := found.map fun (item, one) => (item, classes.idxOf one)
  let next := successors items numbered
  let c := next.foldl (fun c (_, targets) => c.addKernel (targets.map Prod.fst).toArray) c
  let core : Core :=
    { kernel
      classes := (classes.map fun one => { one with fixed := c.sets.number one.fixed }).toArray
      moves := (next.map fun (symbol, targets) =>
        { symbol
          core := c.coreNumbers.getD (targets.map Prod.fst).toArray 0
          sources := (targets.map Prod.snd).toArray : Move }).toArray
      reductions := (numbered.filter fun one => ((items.next[one.1]?).join).isNone).toArray }
  { c with cores := c.cores.setIfInBounds number (some core) }

/-- The union of some sets of tokens. -/
def unite (c : Canonical) : Nat → List Nat → Nat × Canonical
  | set, [] => (set, c)
  | set, other :: rest =>
    match c.sets.union? set other with
    | some both => c.unite both rest
    | none =>
      let c := { c with sets := c.sets.addUnion set other }
      c.unite ((c.sets.union? set other).getD set) rest

/-- The set of tokens of each class of a state. -/
def classSets (c : Canonical) (core : Core) (following : Array Nat) : Array Nat × Canonical :=
  core.classes.foldl (fun (found, c) one =>
    let (set, c) := c.unite one.fixed (one.kernel.map fun position => following.getD position 0)
    (found.push set, c)) (Array.mkEmpty core.classes.size, c)

/-- The sets of tokens of the items that a move leads to. -/
def moveSets (c : Canonical) (sets : Array Nat) (move : Move) : Array Nat × Canonical :=
  move.sources.foldl (fun (found, c) sources =>
    match sources with
    | [] => (found.push 0, c)
    | [one] => (found.push (sets.getD one 0), c)
    | one :: rest =>
      let (set, c) := c.unite (sets.getD one 0) (rest.map fun other => sets.getD other 0)
      (found.push set, c)) (Array.mkEmpty move.sources.size, c)

/-- Follows the moves of a state whose core is known. -/
def followMoves (c : Canonical) (core : Core) (following : Array Nat) : Canonical :=
  let (sets, c) := c.classSets core following
  let (targets, c) := core.moves.foldl (fun (targets, c) move =>
    let (following, c) := c.moveSets sets move
    let (number, c) := c.addState ⟨move.core, following⟩
    (targets.push number, c)) (Array.mkEmpty core.moves.size, c)
  { c with
    targets := c.targets.push targets
    reductionSets := c.reductionSets.push (core.reductions.map fun one => sets.getD one.2 0) }

/-- Follows the moves of a state. -/
def visit (items : Items) (first : Array Nat) (additionsOf : Array (List Addition))
    (c : Canonical) (state : State) : Canonical :=
  match (c.cores[state.core]?).join with
  | some core => c.followMoves core state.following
  | none =>
    let c := buildCore items first additionsOf c state.core
    match (c.cores[state.core]?).join with
    | some core => c.followMoves core state.following
    | none => c

/-- Visits the states in turn, until none is left. The fuel bounds their number. -/
def visitAll (items : Items) (first : Array Nat) (additionsOf : Array (List Addition)) :
    Nat → Canonical → Canonical
  | 0, c => c
  | fuel + 1, c =>
    match c.states[c.targets.size]? with
    | some state => visitAll items first additionsOf fuel (c.visit items first additionsOf state)
    | none => c

end Canonical

/-- A construct that may stand between tokens: the token that opens it, and the state
behind that token. -/
structure ExtraEntry where
  token : Nat
  state : Nat

/-- The items behind the first token of a construct that may stand between tokens, by
that token. -/
def extraStarts (g : Grammar) (items : Items) : List (Nat × List Nat) :=
  let steps := (g.extras.filter g.isVariable).flatMap fun symbol =>
    (items.entered.getD symbol []).filterMap fun item =>
      (items.items[item]?.bind (·.lastStep?)).map fun step => (step.symbol, item)
  let sorted := steps.eraseDups.mergeSort fun a b => a.1 < b.1 || (a.1 = b.1 && a.2 ≤ b.2)
  groupSorted sorted

/-- The canonical automaton, with the constructs that may stand between tokens. The first
state is the one in which nothing fits, the second the beginning. -/
def canonical (g : Grammar) (items : Items) : Canonical × List ExtraEntry :=
  let first := Grammar.firstTokens g
  let additionsOf := additions g first
  let c : Canonical := { sets := ({} : TokenSets).add 0 }
  let (_, c) := c.addItems []
  let (_, c) := c.addItems [(items.whole, 1 <<< g.textEnd)]
  let (entries, c) := (extraStarts g items).foldl (fun (entries, c) (token, starts) =>
    let (state, c) := c.addItems (starts.map fun item => (item, 1 <<< g.extraEnd))
    (entries ++ [⟨token, state⟩], c)) (([] : List ExtraEntry), c)
  (c.visitAll items first additionsOf 1000000, entries)

end SourceOutline.Automaton
