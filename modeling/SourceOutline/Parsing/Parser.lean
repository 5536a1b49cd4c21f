/-
A parser that follows several readings of a text at once: what is known while it runs,
how it puts trees together, and how it compares readings.
-/
import SourceOutline.Parsing.Lookahead

set_option autoImplicit false

namespace SourceOutline.Parsing

open Automaton (Action Table)

/-- A token that was read already, for the next version that comes to the same place. -/
structure Cached (σ : Type) where
  token : Tree σ
  place : Nat
  scanned : Option σ

/-- What is known while a text is read. -/
structure Parser (σ : Type) where
  stack : Stack σ
  /-- The best tree of the whole text so far. -/
  finished : Option (Tree σ) := none
  /-- How many such trees were found. -/
  accepted : Nat := 0
  cached : Option (Cached σ) := none

/-- The most versions that are followed at a time. -/
def maxVersions : Nat := 6

/-- How many more there may be for a while. -/
def spareVersions : Nat := 4

namespace Parser

variable {σ : Type} [DecidableEq σ]

/-- Changes the stack. -/
def onStack (f : Stack σ → Stack σ) (p : Parser σ) : Parser σ :=
  match p with
  | ⟨stack, finished, accepted, cached⟩ => ⟨f stack, finished, accepted, cached⟩

/-- The number of versions. -/
def size (p : Parser σ) : Nat := p.stack.size

/-! ## Comparing versions -/

/-- How well a version does. -/
structure Standing where
  cost : Nat
  /-- The number of nodes since the last fault. -/
  nodes : Nat
  weight : Int
  isAtFault : Bool

/-- Which of two versions does better, and whether the other one is to be given up. -/
inductive Comparison where
  | takeFirst
  | preferFirst
  | equal
  | preferSecond
  | takeSecond

/-- The difference in cost that is too much, for one node since the last fault. -/
def maxDifference : Nat := 1800

/-- Compares two versions. One that is at a fault loses to a cheaper one that is not. The
more a version has read since its last fault, the smaller a difference decides. -/
def compareStandings (a b : Standing) : Comparison :=
  match a.isAtFault, b.isAtFault with
  | false, true => if a.cost < b.cost then .takeFirst else .preferFirst
  | true, false => if b.cost < a.cost then .takeSecond else .preferSecond
  | _, _ =>
    if a.cost < b.cost then
      if maxDifference < (b.cost - a.cost) * (1 + a.nodes) then .takeFirst else .preferFirst
    else if b.cost < a.cost then
      if maxDifference < (a.cost - b.cost) * (1 + b.nodes) then .takeSecond else .preferSecond
    else if b.weight < a.weight then .preferFirst
    else if a.weight < b.weight then .preferSecond
    else .equal

/-- How well a version does. -/
def standing (s : Stack σ) (v : Nat) : Standing :=
  let isPaused := (s.version v).status.isPaused
  { cost := s.cost v + if isPaused then skippedNodeCost else 0
    nodes := s.nodesSince v
    weight := (s.top v).weight
    isAtFault := isPaused || s.state v = 0 }

/-- Whether one of some versions is better than one that would have a certain standing. -/
def isBeatenBy (v : Nat) (own : Standing) (place : Nat) :
    List Nat → Stack σ → Bool × Stack σ
  | [], s => (false, s)
  | other :: rest, s =>
    if other = v || !(s.version other).status.isActive || (s.top other).place.bytes < place then
      isBeatenBy v own place rest s
    else
      let s := s.settleCount other
      match compareStandings own (standing s other) with
      | .takeSecond => (true, s)
      | .preferSecond =>
        if s.canMerge other v then (true, s) else isBeatenBy v own place rest s
      | _ => isBeatenBy v own place rest s

/-- Whether there is something better than a version would be at a certain cost: a tree of
the whole text, or another version that has come at least as far. -/
def hasBetter (v cost : Nat) (p : Parser σ) : Bool × Parser σ :=
  match p with
  | ⟨stack, finished, accepted, cached⟩ =>
    if finished.any fun t => t.cost ≤ cost then (true, ⟨stack, finished, accepted, cached⟩)
    else
      let stack := stack.settleCount v
      let own : Standing :=
        { cost, nodes := stack.nodesSince v, weight := (stack.top v).weight, isAtFault := false }
      let place := (stack.top v).place.bytes
      match isBeatenBy v own place (List.range stack.size) stack with
      | (found, stack) => (found, ⟨stack, finished, accepted, cached⟩)

/-! ## Putting trees together -/

/-- Slices that lie on the same version, together. -/
def groupSlices : List (Slice σ) → List (Nat × List (List (Tree σ)))
  | [] => []
  | slice :: rest =>
    match groupSlices rest with
    | (version, others) :: groups =>
      if slice.version = version then (version, slice.trees :: others) :: groups
      else (slice.version, [slice.trees]) :: (version, others) :: groups
    | [] => [(slice.version, [slice.trees])]

/-- The best node that can be made of one of some lists of trees, and the extra trees
behind it. -/
def bestNode (table : Table) (symbol info : Nat) (first : List (Tree σ))
    (others : List (List (Tree σ))) : Tree σ × List (Tree σ) :=
  let make (trees : List (Tree σ)) : Tree σ × List (Tree σ) :=
    let (children, extras) := splitExtras trees
    (compose table (.symbol symbol) info children, extras)
  others.foldl (fun best trees =>
    let other := make trees
    if prefersSecond table best.1 other.1 then other else best) (make first)

/-- Puts a node on a version of its own, and joins it with another one if possible. The
answer says whether it was joined. -/
def pushNode (table : Table) (symbol : Nat) (weight : Int) (isExtraEnd : Bool)
    (origin v : Nat) (node : Tree σ) (extras : List (Tree σ)) (s : Stack σ) :
    Bool × Stack σ :=
  let state := s.state v
  let next := table.next state symbol
  let node := if isExtraEnd && next = state then node.asExtra else node
  let s := (s.push table v (some (node.weighted weight)) next).pushAll table v extras next
  s.mergeIntoAny table v ((List.range v).filter (· ≠ origin))

/-- Goes through the slices of a reduction. A version too many is dropped. `removed` counts
those that are gone already. -/
def reduceSlices (table : Table) (symbol info : Nat) (weight : Int) (isExtraEnd : Bool)
    (origin limit : Nat) : List (Nat × List (List (Tree σ))) → Nat → Stack σ → Stack σ
  | [], _, s => s
  | (_, []) :: groups, removed, s =>
    reduceSlices table symbol info weight isExtraEnd origin limit groups removed s
  | (version, first :: others) :: groups, removed, s =>
    let v := version - removed
    if limit < v then
      reduceSlices table symbol info weight isExtraEnd origin limit groups (removed + 1)
        (s.remove v)
    else
      let (node, extras) := bestNode table symbol info first others
      match pushNode table symbol weight isExtraEnd origin v node extras s with
      | (joined, s) =>
        reduceSlices table symbol info weight isExtraEnd origin limit groups
          (if joined then removed + 1 else removed) s

/-- Puts the last trees of a version together. The results are new versions; the answer is
the first of them, if any is left. -/
def reduce (table : Table) (symbol count info : Nat) (weight : Int) (isExtraEnd : Bool)
    (v : Nat) (s : Stack σ) : Option Nat × Stack σ :=
  let size := s.size
  match s.pop v count with
  | (slices, s) =>
    let halted := (s.versions.filter fun one => one.status.isHalted).size
    let s := reduceSlices table symbol info weight isExtraEnd v
      (maxVersions + spareVersions + halted) (groupSlices slices.toList) 0 s
    (if size < s.size then some size else none, s)

/-! ## Finishing -/

/-- The tree of the whole text: the last tree that is not an extra one, with all that
stands before and behind it. -/
def rootOf (table : Table) (trees : List (Tree σ)) : Option (Tree σ) :=
  let (front, behind) := splitExtras trees
  match front.getLast? with
  | some (.node info children) =>
    some (compose table info.label info.info (front.dropLast ++ children ++ behind))
  | none => none

/-- Notes a tree of the whole text. -/
def accept (table : Table) (p : Parser σ) (tree : Tree σ) : Parser σ :=
  let better := match p.finished with
    | some old => if prefersSecond table old tree then tree else old
    | none => tree
  { p with finished := some better, accepted := p.accepted + 1 }

/-- Ends a version at the end of the text. -/
def finish (table : Table) (v : Nat) (lookahead : Tree σ) (p : Parser σ) : Parser σ :=
  match p with
  | ⟨stack, finished, accepted, cached⟩ =>
    match (stack.push table v (some lookahead) 1).popAll v with
    | (slices, stack) =>
      let stack := match slices[0]? with
        | some slice => (stack.remove slice.version).halt v
        | none => stack.halt v
      (slices.toList.filterMap fun slice => rootOf table slice.trees).foldl (accept table)
        ⟨stack, finished, accepted, cached⟩

end Parser

end SourceOutline.Parsing
