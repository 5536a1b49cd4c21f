/-
The course of a parse. Each version is taken forward by one token in turn. Then the
versions are compared: those that came to the same state are joined, those that do much
worse than others are dropped, and one that is stuck looks for a way out.
-/
import SourceOutline.Parsing.Recovery

set_option autoImplicit false

namespace SourceOutline.Parsing.Parser

open Automaton (Action Table)

variable {σ : Type} [DecidableEq σ]

/-! ## One token further -/

/-- Whether a token that was read in another state would be read in the same way in this
one. -/
def isReusable (table : Table) (state : Nat) (t : Tree σ) : Bool :=
  let here := table.state state
  let there := table.state t.info.readIn
  match t.label with
  | .symbol token =>
    let isExpected := !(table.actions state token).isEmpty
    here.mode.isSome
      && ((isExpected && here.mode = there.mode
          && table.scannedTokens state = table.scannedTokens t.info.readIn
          && (token ≠ table.grammar.word || (!t.info.isKeyword && t.info.readIn = state)))
        || ((0 < t.info.size.bytes || token = table.grammar.textEnd)
          && table.scannedTokens state = 0 && isExpected && table.isCertain state token))
  | _ => false

/-- Reads the next token of a version, and keeps it for others. -/
def readToken (m : Machine σ) (text : String) (v : Nat) (p : Parser σ) :
    Option (Tree σ) × Parser σ :=
  let place := (p.stack.top v).place.bytes
  let scanned := (p.stack.version v).scanned
  match m.token? text p.stack v (p.stack.state v) with
  | some token => (some token, { p with cached := some ⟨token, place, scanned⟩ })
  | none => (none, p)

/-- The next token of a version, which may have been read already. -/
def lookahead (m : Machine σ) (text : String) (v : Nat) (p : Parser σ) :
    Option (Tree σ) × Parser σ :=
  let state := p.stack.state v
  let place := (p.stack.top v).place.bytes
  let scanned := (p.stack.version v).scanned
  let known := p.cached.filter fun one =>
    one.place = place && one.scanned = scanned && isReusable m.table state one.token
  match known with
  | some one => (some one.token, p)
  | none => readToken m text v p

/-- Reads a token: puts it on the stack, and notes the state of the scanner. -/
def shift (table : Table) (v : Nat) (token : Tree σ) (state : Nat) (s : Stack σ) : Stack σ :=
  let s := s.push table v (some token) state
  match token.info.scanned with
  | some scanned => s.modify v fun one => { one with scanned := some scanned }
  | none => s

/-- What came of the actions on a token. -/
inductive Step (σ : Type) where
  /-- The version is done for this time. -/
  | done (p : Parser σ)
  /-- Trees were put together: the version that came of it last, if any, and whether
  there was anything to put together. -/
  | reduced (last : Option Nat) (any : Bool) (p : Parser σ)

/-- Carries out the actions on a token one after the other, up to one that ends it. -/
def perform (table : Table) (v state : Nat) (token : Option (Tree σ)) :
    List Action → Option Nat → Bool → Parser σ → Step σ
  | [], last, any, p => .reduced last any p
  | action :: rest, last, any, p =>
    match action, token with
    | .shift true, _ => perform table v state token rest last any p
    | .shift false, some t | .enter, some t =>
      match t.label with
      | .symbol number =>
        .done (p.onStack (shift table v t (table.targetOf state number action)))
      | _ => .done p
    | .skip, some t => .done (p.onStack (shift table v t.asExtra state))
    | .accept, some t => .done (p.finish table v t)
    | .recover, some t => .done (recover table v t p)
    | .reduce symbol count weight info, _ =>
      match p with
      | ⟨stack, finished, accepted, cached⟩ =>
        match reduce table symbol count info weight token.isNone v stack with
        | (found, stack) =>
          perform table v state token rest (found.or last) true
            ⟨stack, finished, accepted, cached⟩
    | _, none => perform table v state token rest last any p

/-- Pauses a version at a token that does not fit. -/
def pause (v : Nat) (token : Tree σ) (s : Stack σ) : Stack σ :=
  let count := (s.top v).nodes
  s.modify v fun one => { one with status := .paused token, nodesAtFault := count }

/-- The actions of a state on a token, or on the end of a construct between tokens. -/
def actionsOn (table : Table) (state : Nat) : Option (Tree σ) → List Action
  | some t =>
    match t.label with
    | .symbol token => table.actions state token
    | _ => []
  | none => table.actions state table.grammar.extraEnd

/-- Takes a version forward by one token, with all that has to be put together before it.
A keyword that does not fit is taken for a word. The fuel bounds the number of steps. -/
def advanceWith (m : Machine σ) (text : String) (v : Nat) :
    Nat → Option (Tree σ) → Parser σ → Parser σ
  | 0, _, p => p.onStack (·.halt v)
  | fuel + 1, token, p =>
    let state := p.stack.state v
    match perform m.table v state token (actionsOn m.table state token) none false p with
    | .done p => p
    | .reduced (some last) _ p =>
      let p := p.onStack (·.replace last v)
      match token with
      | some t => advanceWith m text v fuel (some t) p
      | none =>
        match readToken m text v p with
        | (token, p) => advanceWith m text v fuel token p
    | .reduced none true p => p.onStack (·.halt v)
    | .reduced none false p =>
      match token with
      | none => p.onStack (·.halt v)
      | some t =>
        let word := m.table.grammar.word
        if t.info.isKeyword && t.label ≠ .symbol word
            && !(m.table.actions state word).isEmpty then
          advanceWith m text v fuel (some (t.relabelled word)) p
        else if state = 0 then recover m.table v t p
        else p.onStack (pause v t)

/-- Takes a version forward by one token. -/
def advance (m : Machine σ) (text : String) (v : Nat) (p : Parser σ) : Parser σ :=
  match lookahead m text v p with
  | (token, p) => advanceWith m text v 1000000 token p

/-- Takes a version forward until it has come further than all before it, or stops. The
answer is how far that is. The fuel bounds the number of tokens. -/
def follow (m : Machine σ) (text : String) (v : Nat) :
    Nat → Nat → Parser σ → Nat × Parser σ
  | 0, furthest, p => (furthest, p)
  | fuel + 1, furthest, p =>
    if (p.stack.version v).status.isActive && v < p.size then
      let p := advance m text v p
      let place := (p.stack.top v).place.bytes
      if furthest < place || (0 < v && place = furthest) then (place, p)
      else follow m text v fuel furthest p
    else (furthest, p)

/-- Takes the versions forward in turn, those that are added on the way too. The fuel
bounds their number. -/
def followAll (m : Machine σ) (text : String) :
    Nat → Nat → Nat → Parser σ → Nat × Parser σ
  | 0, _, furthest, p => (furthest, p)
  | fuel + 1, v, furthest, p =>
    if v < p.size then
      match follow m text v 1000000 furthest p with
      | (furthest, p) => followAll m text fuel (v + 1) furthest p
    else (furthest, p)

/-! ## Comparing the versions -/

/-- Compares a version with those before it, from `j` on. The answer is where to go on.
The fuel bounds the number of comparisons. -/
def compareWith (table : Table) (own : Standing) :
    Nat → Nat → Nat → Stack σ → Nat × Stack σ
  | 0, i, _, s => (i + 1, s)
  | fuel + 1, i, j, s =>
    if i ≤ j then (i + 1, s)
    else
      let s := s.settleCount j
      match compareStandings (standing s j) own with
      | .takeFirst => (i, s.remove i)
      | .preferFirst | .equal =>
        if s.canMerge j i then (i, s.merge table j i)
        else compareWith table own fuel i (j + 1) s
      | .preferSecond =>
        if s.canMerge j i then (i, s.merge table j i)
        else compareWith table own fuel i (j + 1) (s.swap i j)
      | .takeSecond => compareWith table own fuel (i - 1) j (s.remove j)

/-- Compares the versions with each other. The answer is the least cost of one that is not
at a fault. The fuel bounds the number of versions. -/
def compareAll (table : Table) : Nat → Nat → Option Nat → Stack σ → Option Nat × Stack σ
  | 0, _, least, s => (least, s)
  | fuel + 1, i, least, s =>
    if s.size ≤ i then (least, s)
    else if (s.version i).status.isHalted then compareAll table fuel i least (s.remove i)
    else
      let s := s.settleCount i
      let own := standing s i
      let least := if own.isAtFault then least
        else some (least.elim own.cost (min own.cost))
      match compareWith table own 1000 i 0 s with
      | (next, s) => compareAll table fuel next least s

/-- Wakes the first of the versions that wait, if none before it goes on, and drops the
others. `n` counts the versions that were there at first. -/
def wake (table : Table) :
    Nat → Nat → Nat → Bool → Option Nat → Parser σ → Option Nat × Parser σ
  | 0, _, _, _, least, p => (least, p)
  | fuel + 1, i, n, isGoing, least, p =>
    if n ≤ i then (least, p)
    else
      match (p.stack.version i).status with
      | .paused token =>
        if !isGoing && p.accepted < maxVersions then
          let cost := p.stack.cost i
          let p := p.onStack (·.modify i fun one => { one with status := .active })
          wake table fuel (i + 1) n true (some cost) (handleFault table i token p)
        else wake table fuel i (n - 1) isGoing least (p.onStack (·.remove i))
      | _ => wake table fuel (i + 1) n true least p

/-- Compares the versions, keeps the best of them, and wakes one that waits if no other
goes on. The answer is the least cost. -/
def condense (table : Table) (p : Parser σ) : Option Nat × Parser σ :=
  match p with
  | ⟨stack, finished, accepted, cached⟩ =>
    match compareAll table (2 * stack.size * stack.size + stack.size) 0 none stack with
    | (least, stack) =>
      let stack := { stack with versions := stack.versions.extract 0 maxVersions }
      let count := stack.size
      wake table (2 * count) 0 count false least ⟨stack, finished, accepted, cached⟩

/-! ## The whole text -/

/-- Round after round, until no version is left or the best tree cannot be beaten. The
fuel bounds the number of rounds. -/
def rounds (m : Machine σ) (text : String) : Nat → Nat → Parser σ → Option (Tree σ)
  | 0, _, p => p.finished
  | fuel + 1, furthest, p =>
    match followAll m text 1000000 0 furthest p with
    | (furthest, p) =>
      match condense m.table p with
      | (least, p) =>
        let isSettled := p.finished.any fun t => least.all fun cost => t.cost < cost
        if isSettled || p.size = 0 then p.finished else rounds m text fuel furthest p

end Parser

/-- The tree of a text. Every text has one, whatever its faults. -/
def Machine.parse {σ : Type} [DecidableEq σ] (m : Machine σ) (text : String) :
    Option (Tree σ) :=
  Parser.rounds m text (1000 * (text.utf8ByteSize + 1000)) 0 { stack := .start 1 }

end SourceOutline.Parsing
