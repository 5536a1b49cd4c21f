/-
The table of a parser: what each state does with each token, where it goes from there,
and which tokens are looked for in it.

States are numbered so that those with many entries come first. The first two have a
place of their own: the state in which nothing fits, and the beginning.
-/
import SourceOutline.Automaton.Merging
import SourceOutline.Lexing.Dfa

set_option autoImplicit false

namespace SourceOutline.Automaton

open Lexing (Dfa Nfa Rivalries TokenSearch)

/-- A state of a parser. -/
structure ParserState where
  /-- For each token the number of its list of actions. -/
  entries : Array Nat
  /-- The tokens that have any. -/
  tokens : Nat
  core : Nat
  /-- Where the moves of the core lead. -/
  targets : Array Nat
  /-- Which tokens are looked for; nothing at the end of a construct between tokens. -/
  mode : Option Nat := none

/-- The table of a parser. -/
structure Table where
  grammar : Grammar
  infos : Array ChildInfo
  /-- The lists of actions. -/
  lists : Array (List Action)
  /-- For each core and symbol the move, counted from one. -/
  places : Array (Array Nat)
  /-- For each token that opens a construct between tokens the state behind it. -/
  entering : Array Nat
  /-- The variables that may stand between tokens, as a set. -/
  extras : Nat
  states : Array ParserState
  /-- The states in which the search for each mode begins. -/
  modes : Array Nat
  /-- The state in which the search for keywords begins. -/
  keywordMode : Nat
  dfa : Dfa
  alphabet : Lexing.Alphabet
  /-- For each token those that share a text with it, or the beginning of one. -/
  overlapping : Array Nat
  /-- All tokens, in the order in which they are tried. -/
  order : List Nat
  /-- For each symbol its place in the order of symbols. -/
  ranks : Array Nat
  /-- For each symbol whether its nodes appear. -/
  visible : Array Bool

namespace Table

/-- A state. -/
def state (table : Table) (number : Nat) : ParserState :=
  table.states.getD number { entries := #[], tokens := 0, core := 0, targets := #[] }

/-- What a state does with a token. -/
def actions (table : Table) (state token : Nat) : List Action :=
  table.lists.getD ((table.state state).entries.getD token 0) []

/-- Where a state goes on a symbol by the moves of its core. -/
def target (table : Table) (state symbol : Nat) : Nat :=
  let one := table.state state
  match (table.places.getD one.core #[]).getD symbol 0 with
  | 0 => 0
  | place + 1 => one.targets.getD place 0

/-- Where a state goes on a token by an action. -/
def targetOf (table : Table) (state token : Nat) : Action → Nat
  | .shift _ => table.target state token
  | .enter => table.entering.getD token 0
  | .skip => state
  | .reduce _ _ _ _ | .accept | .recover => 0

/-- Where a state goes on a symbol. The last action on a token decides; what may stand
between tokens leads nowhere else. -/
def next (table : Table) (state symbol : Nat) : Nat :=
  if table.grammar.isVariable symbol then
    if table.extras.testBit symbol && !(table.state state).tokens.testBit table.grammar.extraEnd
    then state
    else table.target state symbol
  else (table.actions state symbol).getLast?.elim 0 (table.targetOf state symbol)

/-- The tokens that a scanner may look for in a state. -/
def scannedTokens (table : Table) (state : Nat) : Nat :=
  (table.state state).tokens % (1 <<< table.grammar.scanned.size)

/-- Whether a token could not have been read as another one in a state. -/
def isCertain (table : Table) (state token : Nat) : Bool :=
  table.overlapping.getD token 0 &&& (table.state state).tokens = 0

end Table

/-! ## The state in which nothing fits -/

/-- Whether a token can be told from all tokens that may not stand in its place. -/
def isDistinct (g : Grammar) (rivalries : Rivalries) (company : Company)
    (token : Nat) : Bool :=
  (patternTokens g).all fun other =>
    other = token || company.areTogether token other
      || !rivalries.isShorter (token - g.firstToken) (other - g.firstToken)

/-- The tokens that are looked for where nothing fits: words, tokens that can be told
from others, and what does not get in their way. -/
def searchedTokens (g : Grammar) (rivalries : Rivalries) (company : Company)
    (keywords : Nat) : Nat :=
  let distinct := tokensWhere g (isDistinct g rivalries company)
  let clear := (patternTokens g).filter distinct.testBit
  tokensWhere g fun token =>
    distinct.testBit token || keywords.testBit token || token = g.word
      || clear.all fun other =>
        company.areTogether token other
          || (let r := rivalry g rivalries token other; !(r.conflicts || r.overrides))

/-- The state in which nothing fits. On every token it looks for a way out. -/
def lostState (g : Grammar) (tokens entry : Nat) : ParserState :=
  let all := tokens ||| (1 <<< g.scanned.size - 1) ||| (1 <<< g.textEnd)
  { entries := (Array.range g.firstVariable).map fun token =>
      if all.testBit token then entry else 0
    tokens := all, core := 0, targets := #[] }

/-! ## Numbering -/

/-- The states that can be reached from some. The fuel bounds the steps. -/
def reachable (next : Nat → List Nat) : Nat → List Nat → Array Bool → Array Bool
  | 0, _, seen => seen
  | _, [], seen => seen
  | fuel + 1, state :: pending, seen =>
    if seen.getD state true then reachable next fuel pending seen
    else reachable next fuel (next state ++ pending) (seen.setIfInBounds state true)

/-- The number of tokens and variables that a state has an entry for. -/
def ParserState.size (g : Grammar) (cores : Array Core) (state : ParserState) : Nat :=
  let count := (Grammar.tokensOf g.firstVariable state.tokens).length
  let moves := match cores[state.core]? with
    | some core => (core.moves.toList.filter fun move => g.isVariable move.symbol).length
    | none => 0
  let extras := if state.tokens.testBit g.extraEnd then 0
    else (g.extras.filter g.isVariable).length
  count + moves + extras

/-- Renumbers the states that a state leads to. -/
def ParserState.renumber (numbers : Array Nat) (state : ParserState) : ParserState :=
  { state with targets := state.targets.map fun target => numbers.getD target 0 }

/-- The states put together, before they are put in order. Where a move leads is counted
from zero, and a move that is not made leads to the first state. -/
def mergedStates (u : Unmerged) (grouping : Grouping) : Array ParserState :=
  grouping.groups.map fun members =>
    let first := members.getD 0 0
    let joint := members.foldl (u.join grouping.groupOf) (u.noneYet first)
    { entries := joint.entries
      tokens := joint.tokens
      core := u.coreOf.getD first 0
      targets := joint.targets.map (· - 1) }

/-- The states in their order, and the new number of each. -/
def orderStates (g : Grammar) (cores : Array Core) (entering : List Nat)
    (states : Array ParserState) : Array ParserState × Array Nat :=
  let next (state : Nat) : List Nat :=
    match states[state]? with
    | some one => one.targets.toList ++ entering
    | none => []
  let used := (reachable next (states.size * 1000) [1] (Array.replicate states.size false))
    |>.setIfInBounds 0 true
  let sized := (List.range states.size).filterMap fun number =>
    if used.getD number false then
      states[number]?.map fun state => (number, state, state.size g cores)
    else none
  let ordered := sized.take 2 ++ (sized.drop 2).mergeSort fun a b => b.2.2 ≤ a.2.2
  let numbers := ordered.zipIdx.foldl (fun numbers (one, place) =>
    numbers.setIfInBounds one.1 place) (Array.replicate states.size 0)
  ((ordered.map fun one => one.2.1.renumber numbers).toArray, numbers)

/-! ## Which tokens are looked for at the same time -/

/-- For each token those that must not be looked for beside it, unless they are looked for
on both sides. -/
def apart (g : Grammar) (rivalries : Rivalries) (company : Company) : Array Nat :=
  (Array.range g.firstVariable).map fun token =>
    if g.isToken token then
      tokensWhere g fun other =>
        let r := rivalry g rivalries token other
        r.conflicts || r.cutsShort
          || (!company.areTogether token other
            && (r.overlaps || (rivalry g rivalries other token).overlaps))
    else 0

/-- Whether two sets of tokens may be looked for together. -/
def mayJoin (g : Grammar) (apart : Array Nat) (a b : Nat) : Bool :=
  let both := a &&& b
  let clear (one other : Nat) : Bool :=
    (Grammar.tokensOf g.firstVariable (one ^^^ both)).all fun token =>
      apart.getD token 0 &&& other = 0
  clear a b && clear b a

/-- The first mode that may take a set of tokens too. -/
def findMode (g : Grammar) (apart : Array Nat) (tokens : Nat) (modes : Array Nat) :
    Option Nat :=
  modes.findIdx? fun mode => mayJoin g apart mode tokens

/-- The tokens that are looked for in a state: keywords as words, and neither scanned
tokens nor the end of a construct between tokens. -/
def searchSet (g : Grammar) (keywords tokens : Nat) : Nat :=
  let words := tokens &&& keywords
  let own := (tokens ^^^ words) >>> g.textEnd <<< g.textEnd
  if words = 0 then own else own ||| (1 <<< g.word)

/-- The modes of the states in turn. Each state takes the first mode that may take its
tokens, and states with the same tokens have the same mode. -/
def assignModes (g : Grammar) (apart : Array Nat) (keywords : Nat)
    (states : Array ParserState) : Array Nat × Array ParserState :=
  let (modes, _, states) := states.foldl (fun (modes, known, states) state =>
    if state.tokens.testBit g.extraEnd then (modes, known, states.push state)
    else
      let tokens := searchSet g keywords state.tokens
      match (known : Std.HashMap TokenSet Nat)[(⟨tokens⟩ : TokenSet)]? with
      | some mode => (modes, known, states.push { state with mode := some mode })
      | none =>
        let (mode, modes) := match findMode g apart tokens modes with
          | some mode => (mode, modes.modify mode (· ||| tokens))
          | none => (modes.size, modes.push tokens)
        (modes, known.insert ⟨tokens⟩ mode, states.push { state with mode := some mode }))
    ((#[] : Array Nat), (∅ : Std.HashMap TokenSet Nat), (#[] : Array ParserState))
  (modes, states)

/-- The search for a set of tokens. -/
def searchOf (g : Grammar) (tokens : Nat) : TokenSearch :=
  { tokens := ((patternTokens g).filter tokens.testBit).map (· - g.firstToken)
    mayEnd := tokens.testBit g.textEnd }

/-! ## The table -/

/-- The end of the text is the end of a construct between tokens as well. -/
def ParserState.endAtTextEnd (g : Grammar) (state : ParserState) : ParserState :=
  if state.tokens.testBit g.extraEnd then
    { state with
      entries := state.entries.setIfInBounds g.textEnd (state.entries.getD g.extraEnd 0) }
  else state

/-- For each core and symbol the move, counted from one. -/
def movePlaces (g : Grammar) (cores : Array Core) : Array (Array Nat) :=
  cores.map fun core =>
    core.moves.zipIdx.foldl (fun places (move, place) =>
      places.setIfInBounds move.symbol (place + 1)) (Array.replicate g.symbolCount 0)

/-- All tokens in the order in which they are tried: the word, the others with a pattern,
the scanned ones. -/
def tokenOrder (g : Grammar) : List Nat :=
  g.word :: (patternTokens g).filter (· ≠ g.word) ++ List.range g.scanned.size

/-- The table of a grammar's parser. -/
def Table.ofGrammar (g : Grammar) : Table :=
  let items := Items.ofGrammar g
  let (c, extras) := canonical g items
  let reductions := Reductions.ofItems items
  let profiles := profilesOf g items reductions c extras
  let sets := profiles.profiles.foldl (fun (sets : TokenSets) one => sets.add one.tokens) {}
  let company := Company.ofSets g sets.sets
  let nfa := Nfa.ofGrammar g
  let rivalries := Rivalries.ofNfa g nfa
  let keywords := keywords g nfa rivalries company
  let u := Unmerged.ofCanonical g rivalries keywords c profiles
  let grouping := u.merge
  let lost := lostState g (searchedTokens g rivalries company keywords) profiles.entries.size
  let merged := (mergedStates u grouping).setIfInBounds 0 lost
  let groupOf (state : Nat) : Nat := grouping.groupOf.getD state 0
  let (ordered, numbers) :=
    orderStates g u.cores (extras.map fun one => groupOf one.state) merged
  let (modes, states) := assignModes g (apart g rivalries company) keywords ordered
  let searches := modes.map (searchOf g) |>.push (searchOf g keywords)
  let (starts, dfa) := Dfa.ofSearches nfa searches
  let order := tokenOrder g
  { grammar := g
    infos := reductions.infos
    lists := profiles.entries.push [.recover]
    places := movePlaces g u.cores
    entering := extras.foldl (fun table one =>
      table.setIfInBounds one.token (numbers.getD (groupOf one.state) 0))
      (Array.replicate g.firstVariable 0)
    extras := Resolutions.bitsOf (g.extras.filter g.isVariable)
    states := states.map (·.endAtTextEnd g)
    modes := starts.pop
    keywordMode := starts.back?.getD 0
    dfa
    alphabet := nfa.alphabet
    overlapping := (Array.range g.firstVariable).map fun token =>
      if g.isToken token then
        tokensWhere g fun other => (rivalry g rivalries other token).overlaps
      else 0
    order
    ranks := (g.textEnd :: order).zipIdx.foldl (fun ranks (token, place) =>
      ranks.setIfInBounds token place) (Array.range g.symbolCount)
    visible := (Array.range g.symbolCount).map g.isVisible }

end SourceOutline.Automaton
