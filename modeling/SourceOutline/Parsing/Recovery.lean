/-
Going on after a fault. There are three ways out: to take a token as missing, to go back
to a state that was passed before and treat what came since as a fault, or to pass over
the next token. Each has its cost, and the versions that come of it compete with each
other.
-/
import SourceOutline.Parsing.Parser

set_option autoImplicit false

namespace SourceOutline.Parsing.Parser

open Automaton (Action Table)

variable {σ : Type} [DecidableEq σ]

/-! ## All reductions -/

/-- A reduction that a state may ask for. -/
structure Choice where
  symbol : Nat
  count : Nat
  weight : Int
  info : Nat

/-- Adds what an action asks for: whether a token can be read, and the reductions, each
symbol and number of children once. -/
def addChoice (found : Bool × List Choice) : Action → Bool × List Choice
  | .shift isRepetition => (found.1 || !isRepetition, found.2)
  | .enter | .recover => (true, found.2)
  | .reduce symbol count weight info =>
    if count = 0 || found.2.any fun one => one.symbol = symbol && one.count = count then found
    else (found.1, found.2 ++ [⟨symbol, count, weight, info⟩])
  | .skip | .accept => found

/-- What a state asks for on some tokens. -/
def choices (table : Table) (state : Nat) (tokens : List Nat) : Bool × List Choice :=
  tokens.foldl (fun found token => (table.actions state token).foldl addChoice found) (false, [])

/-- Carries out reductions on a version. The answer is that of the last one. -/
def reduceChoices (table : Table) (v : Nat) :
    List Choice → Option Nat → Stack σ → Option Nat × Stack σ
  | [], last, s => (last, s)
  | one :: rest, _, s =>
    match reduce table one.symbol one.count one.info one.weight false v s with
    | (last, s) => reduceChoices table v rest last s

/-- Carries out reductions on the versions from `v` on, and on those that come of them. If
only some tokens count, versions that cannot read any of them are dropped. The answer
says whether some version can. The fuel bounds the number of steps. -/
def reduceFrom (table : Table) (tokens : List Nat) (isFiltered : Bool) (origin size : Nat) :
    Nat → Nat → Nat → Bool → Stack σ → Bool × Stack σ
  | 0, _, _, found, s => (found, s)
  | fuel + 1, step, v, found, s =>
    let count := s.size
    if count ≤ v then (found, s)
    else
      match s.mergeIntoAny table v ((List.range v).filter (size ≤ ·)) with
      | (true, s) => reduceFrom table tokens isFiltered origin size fuel (step + 1) v found s
      | (false, s) =>
        let (canRead, asked) := choices table (s.state v) tokens
        match reduceChoices table v asked none s with
        | (last, s) =>
          let next := if v = origin then count else v + 1
          if canRead then
            reduceFrom table tokens isFiltered origin size fuel (step + 1) next true s
          else
            match last with
            | some other =>
              if step < maxVersions then
                reduceFrom table tokens isFiltered origin size fuel (step + 1) v found
                  (s.replace other v)
              else
                reduceFrom table tokens isFiltered origin size fuel (step + 1) next found
                  (if isFiltered then s.remove v else s)
            | none =>
              reduceFrom table tokens isFiltered origin size fuel (step + 1) next found
                (if isFiltered then s.remove v else s)

/-- Carries out all reductions that are possible in front of a token, or in front of any
token. At the end of the text it is any. -/
def reduceAll (table : Table) (v : Nat) (lookahead : Option Nat) (s : Stack σ) :
    Bool × Stack σ :=
  match lookahead with
  | some token =>
    if token = table.grammar.textEnd then
      reduceFrom table table.order false v s.size 10000 0 v false s
    else reduceFrom table [token] true v s.size 10000 0 v false s
  | none => reduceFrom table table.order false v s.size 10000 0 v false s

/-! ## Going back -/

/-- Makes what was taken off a version a fault, with the fault below it if there is one. -/
def pushFault (table : Table) (goal : Nat) (slice : Slice σ) (s : Stack σ) : Stack σ :=
  match s.popFault slice.version with
  | (inside, s) =>
    let (trees, extras) := splitExtras (inside ++ slice.trees)
    let s := if trees.isEmpty then s
      else s.push table slice.version (some (compose table .fault 0 trees).asExtra) goal
    s.pushAll table slice.version extras goal

/-- Goes through the slices of a way back. Versions that did not come to the goal are
given up. -/
def backSlices (table : Table) (goal : Nat) :
    List (Slice σ) → Option Nat → Stack σ → Option Nat × Stack σ
  | [], last, s => (last, s)
  | slice :: rest, last, s =>
    if last = some slice.version then backSlices table goal rest last s
    else if s.state slice.version ≠ goal then
      backSlices table goal rest last (s.halt slice.version)
    else backSlices table goal rest (some slice.version) (pushFault table goal slice s)

/-- Goes back to a state that lies a number of trees below. The answer says whether that
worked. -/
def backTo (table : Table) (v depth goal : Nat) (s : Stack σ) : Bool × Stack σ :=
  match s.pop v depth with
  | (slices, s) =>
    match backSlices table goal slices.toList none s with
    | (last, s) => (last.isSome, s)

/-- Tries the states that were passed, in their order, for one that fits a token. It stops
at the first that works, and as soon as something else is better. -/
def goBack (table : Table) (v token : Nat) (place : Extent) (nodes cost size : Nat) :
    List Past → Parser σ → Bool × Parser σ
  | [], p => (false, p)
  | past :: rest, p =>
    let s := p.stack
    let isKnown := (List.range size).any fun other =>
      s.state other = past.state && (s.top other).place.bytes = place.bytes
    if past.state = 0 || past.place.bytes = place.bytes || isKnown then
      goBack table v token place nodes cost size rest p
    else
      let newCost := cost + past.depth * skippedNodeCost + (place.bytes - past.place.bytes)
        + (place.rows - past.place.rows) * skippedLineCost
      match p.hasBetter v newCost with
      | (true, p) => (false, p)
      | (false, p) =>
        if (table.actions past.state token).isEmpty then
          goBack table v token place nodes cost size rest p
        else
          let depth := if 0 < nodes then past.depth + 1 else past.depth
          match p with
          | ⟨stack, finished, accepted, cached⟩ =>
            match backTo table v depth past.state stack with
            | (true, stack) => (true, ⟨stack, finished, accepted, cached⟩)
            | (false, stack) =>
              goBack table v token place nodes cost size rest
                ⟨stack, finished, accepted, cached⟩

/-! ## Passing over a token -/

/-- Drops the versions from a number on that are not active. -/
def dropIdle (size : Nat) (s : Stack σ) : Stack σ :=
  { s with
    versions := s.versions.extract 0 size
      ++ (s.versions.extract size s.versions.size).filter fun one => one.status.isActive }

/-- Passes over a token. What is passed over since the fault is kept together. -/
def skipToken (table : Table) (v : Nat) (lookahead : Tree σ) (nodes : Nat) (s : Stack σ) :
    Stack σ :=
  let isExtra := match lookahead.label with
    | .symbol token =>
      match (table.actions 1 token).getLast? with
      | some .skip => true
      | _ => false
    | _ => false
  let token := if isExtra then lookahead.asExtra else lookahead
  let one := compose table .skipped 0 [token]
  let (skipped, s) := if 0 < nodes then
      match s.pop v 1 with
      | (slices, s) =>
        match slices[0]? with
        | some slice =>
          let s := { s with versions := s.versions.extract 0 (slice.version + 1) }
          let s := s.replace slice.version v
          (compose table .skipped 0 (slice.trees ++ [one]), s)
        | none => (one, s)
    else (one, s)
  let s := s.push table v (some skipped) 0
  match lookahead.info.scanned with
  | some state => s.modify v fun old => { old with scanned := some state }
  | none => s

/-- Looks for a way out in front of a token. -/
def recover (table : Table) (v : Nat) (lookahead : Tree σ) (p : Parser σ) : Parser σ :=
  let p := p.onStack (·.settleCount v)
  let size := p.size
  let place := (p.stack.top v).place
  let nodes := p.stack.nodesSince v
  let cost := p.stack.cost v
  let past := ((p.stack.version v).past.getD #[]).toList
  let (didGoBack, p) := match lookahead.label with
    | .symbol token => goBack table v token place nodes cost size past p
    | _ => (false, p)
  let p := p.onStack (dropIdle size)
  if lookahead.label = .symbol table.grammar.textEnd then
    (p.onStack fun s => s.push table v (some (compose table .fault 0 [])) 1).finish table v
      lookahead
  else if didGoBack && (maxVersions < p.size || lookahead.info.movesScanner) then
    p.onStack (·.halt v)
  else
    let newCost := cost + skippedNodeCost + lookahead.total.bytes
      + lookahead.total.rows * skippedLineCost
    match p.hasBetter v newCost with
    | (true, p) => p.onStack (·.halt v)
    | (false, p) => p.onStack (skipToken table v lookahead nodes)

/-! ## A token that is missing -/

/-- A token that is not in the text. -/
def missingToken (token : Nat) : Tree σ := .leaf { label := .symbol token, isMissing := true }

/-- Whether a state asks for a reduction on a token. -/
def asksToReduce (table : Table) (state : Nat) (lookahead : Label) : Bool :=
  match lookahead with
  | .symbol token => (table.actions state token).any fun action =>
    match action with
    | .reduce _ _ _ _ => true
    | _ => false
  | _ => false

/-- Tries tokens one after the other as missing in front of another one. A copy of the
version goes on with the first that fits. -/
def tryMissing (table : Table) (v state : Nat) (lookahead : Label) :
    List Nat → Stack σ → Bool × Stack σ
  | [], s => (false, s)
  | token :: rest, s =>
    let next := table.next state token
    if next = 0 || next = state || !asksToReduce table next lookahead then
      tryMissing table v state lookahead rest s
    else
      let copy := s.size
      let s := (s.copy v).push table copy (some (missingToken token)) next
      let wanted := match lookahead with
        | .symbol number => some number
        | _ => none
      match reduceAll table copy wanted s with
      | (true, s) => (true, s)
      | (false, s) => tryMissing table v state lookahead rest s

/-- Marks the fault on some versions, the first of which is to try missing tokens until one
is found. -/
def markFaults (table : Table) (lookahead : Label) :
    List Nat → Bool → Stack σ → Stack σ
  | [], _, s => s
  | v :: rest, found, s =>
    let tried : Bool × Stack σ := if found then (true, s)
      else
        let state := s.state v
        tryMissing table v state lookahead table.order s
    match tried with
    | (found, s) => markFaults table lookahead rest found (s.push table v none 0)

/-- Joins versions with another one as often as given, always taking the next in line. -/
def mergeNext (table : Table) (v next : Nat) : Nat → Stack σ → Stack σ
  | 0, s => s
  | n + 1, s =>
    if s.canMerge v next then mergeNext table v next n (s.merge table v next)
    else mergeNext table v next n s

/-- Deals with a token that fits nowhere. All that can be put together before the fault is
tried, and the versions that come of it are joined at the fault. -/
def handleFault (table : Table) (v : Nat) (lookahead : Tree σ) (p : Parser σ) : Parser σ :=
  let size := p.size
  let p := p.onStack fun s =>
    match reduceAll table v none s with
    | (_, s) =>
      let count := s.size
      let added := (List.range count).filter (size ≤ ·)
      let s := markFaults table lookahead.label (v :: added) false s
      (mergeNext table v size (count - size) s).recordPast v
  recover table v lookahead p

end SourceOutline.Parsing.Parser
