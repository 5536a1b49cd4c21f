/-
Profiles: what a state does with each token, up to the states it goes to. States of
one core whose reductions wait for the same tokens have the same profile, so each is
worked out once.
-/
import SourceOutline.Automaton.Entry

set_option autoImplicit false

namespace SourceOutline.Automaton

/-- For each token the number of its list of actions, and the set of all tokens that
have any. -/
structure Profile where
  entries : Array Nat
  tokens : Nat

/-- The key of a profile: a core, and the sets of tokens its reductions wait for. -/
structure ProfileKey where
  core : Nat
  waiting : Array Nat
deriving BEq, Hashable

/-- Numbered lists of actions. The first one is empty. -/
structure Entries where
  lists : Array (List Action) := #[[]]
  numbers : Std.HashMap (List Action) Nat := (∅ : Std.HashMap (List Action) Nat).insert [] 0

/-- Sees to it that a list of actions has a number. -/
def Entries.add (entries : Entries) (actions : List Action) : Entries :=
  if entries.numbers.contains actions then entries
  else
    { numbers := entries.numbers.insert actions entries.lists.size
      lists := entries.lists.push actions }

/-- The number of a list of actions that has one. -/
def Entries.number (entries : Entries) (actions : List Action) : Nat :=
  entries.numbers.getD actions 0

/-- What is needed to work out profiles. -/
structure ProfileContext where
  grammar : Grammar
  items : Items
  first : Array Nat
  reductions : Reductions
  cores : Array Core
  /-- The sets of tokens, as bits. -/
  setBits : Array Nat
  /-- The tokens of each set of tokens. -/
  setTokens : Array (List Nat)
  /-- Tokens that open a construct between tokens. -/
  entering : List Nat
  /-- Tokens that may stand between tokens themselves. -/
  skipped : List Nat

/-- The lists of actions worked out so far. -/
structure Resolutions where
  entries : Entries := {}
  /-- The numbers of the lists, by core, token and the reductions that wait for it. -/
  numbers : Std.HashMap Nat Nat := ∅

namespace Resolutions

/-- The number of the actions on a token for which some reductions wait, given as bits. -/
def resolveToken (context : ProfileContext) (number : Nat) (core : Core) (shifts : Nat)
    (p : Resolutions) (token waiting : Nat) : Nat × Resolutions :=
  let key := (number * 1024 + token) * (1 <<< 20) + waiting
  match p.numbers[key]? with
  | some entry => (entry, p)
  | none =>
    let reducing := core.reductions.toList.zipIdx.filterMap fun ((item, _), index) =>
      if waiting.testBit index then some item else none
    let actions := resolve context.grammar context.items context.first context.reductions core
      token (shifts.testBit token) reducing
    let p := { p with entries := p.entries.add actions }
    let entry := p.entries.number actions
    (entry, { p with numbers := p.numbers.insert key entry })

/-- The reductions that wait for a token, as bits. -/
def waitingFor (context : ProfileContext) (waiting : Array Nat) (token : Nat) : Nat :=
  waiting.zipIdx.foldl (fun bits (set, index) =>
    if (context.setBits.getD set 0).testBit token then bits ||| (1 <<< index) else bits) 0

/-- A number beyond all tokens. It stands for any token that nothing else asks for. -/
def noToken : Nat := 1023

/-- Enters the tokens that one reduction waits for. A token that has an entry already is
asked for by something else as well, and is worked out anew. -/
def enterReduction (context : ProfileContext) (key : ProfileKey) (core : Core) (shifts : Nat)
    (p : Resolutions) (table : Array Nat) (index set : Nat) : Array Nat × Resolutions :=
  let (alone, p) := p.resolveToken context key.core core 0 noToken (1 <<< index)
  (context.setTokens.getD set []).foldl (fun (table, p) token =>
    if table.getD token 0 = 0 then (table.setIfInBounds token alone, p)
    else
      let (entry, p) := p.resolveToken context key.core core shifts token
        (waitingFor context key.waiting token)
      (table.setIfInBounds token entry, p)) (table, p)

/-- Gives the tokens in a list that have no actions yet the same action. -/
def fill (entry : Nat) (tokens : List Nat) (table : Array Nat) : Array Nat :=
  tokens.foldl (fun table token =>
    if table.getD token 0 = 0 then table.setIfInBounds token entry else table) table

/-- A set of tokens as bits. -/
def bitsOf (tokens : List Nat) : Nat := tokens.foldl (fun bits token => bits ||| (1 <<< token)) 0

/-- Works out the profile of a key. The end of a construct between tokens leaves no room
for another one. -/
def work (context : ProfileContext) (p : Resolutions) (key : ProfileKey) : Profile × Resolutions :=
  match context.cores[key.core]? with
  | none => (⟨#[], 0⟩, p)
  | some core =>
    let g := context.grammar
    let shifted := core.moves.toList.filterMap fun move =>
      if g.isVariable move.symbol then none else some move.symbol
    let shifts := bitsOf shifted
    let table := fill (p.entries.number [.shift false]) shifted
      (Array.replicate g.firstVariable 0)
    let (table, p) := key.waiting.zipIdx.foldl (fun (table, p) (set, index) =>
      p.enterReduction context key core shifts table index set) (table, p)
    let tokens := key.waiting.foldl (fun bits set => bits ||| context.setBits.getD set 0) shifts
    if tokens.testBit g.extraEnd then (⟨table, tokens⟩, p)
    else
      let table := fill (p.entries.number [.skip]) context.skipped
        (fill (p.entries.number [.enter]) context.entering table)
      (⟨table, tokens ||| bitsOf (context.entering ++ context.skipped)⟩, p)

end Resolutions

/-- The different keys among those of all states, and for each state which it is. -/
structure ProfileKeys where
  keys : Array ProfileKey := #[]
  numbers : Std.HashMap ProfileKey Nat := ∅
  ofState : Array Nat := #[]

/-- Adds the key of the next state. -/
def ProfileKeys.add (k : ProfileKeys) (key : ProfileKey) : ProfileKeys :=
  match k with
  | ⟨keys, numbers, ofState⟩ =>
    match numbers[key]? with
    | some number => ⟨keys, numbers, ofState.push number⟩
    | none =>
      let count := keys.size
      ⟨keys.push key, numbers.insert key count, ofState.push count⟩

/-- The profiles of the states of an automaton. -/
structure Profiles where
  /-- The numbered lists of actions. -/
  entries : Array (List Action)
  profiles : Array Profile
  /-- The profile of each state. -/
  ofState : Array Nat

/-- The profiles of all states of an automaton. -/
def profilesOf (g : Grammar) (items : Items) (reductions : Reductions) (c : Canonical)
    (extras : List ExtraEntry) : Profiles :=
  let context : ProfileContext :=
    { grammar := g, items, reductions
      first := Grammar.firstTokens g
      cores := c.cores.map fun core => core.getD ⟨#[], #[], #[], #[]⟩
      setBits := c.sets.sets
      setTokens := c.sets.sets.map (Grammar.tokensOf g.firstVariable)
      entering := extras.map (·.token)
      skipped := g.extras.filter g.isToken }
  let keys := (c.states.zip c.reductionSets).foldl
    (fun (keys : ProfileKeys) (state, waiting) => keys.add ⟨state.core, waiting⟩) {}
  let start : Resolutions :=
    { entries := ((({} : Entries).add [.shift false]).add [.enter]).add [.skip] }
  let (profiles, resolved) := keys.keys.foldl (fun (profiles, resolved) key =>
    match Resolutions.work context resolved key with
    | (profile, resolved) => (profiles.push profile, resolved)) ((#[] : Array Profile), start)
  { entries := resolved.entries.lists, profiles, ofState := keys.ofState }

end SourceOutline.Automaton
