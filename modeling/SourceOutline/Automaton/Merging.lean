/-
Putting states together. States with the same items can be one state, as long as this
does not change what is read: what one of them does with a token must not contradict
the other, and a token that only one of them takes must not get in the way of the
tokens that the other takes.

At first all states with the same items are in one group. A group is then divided, its
members one after the other, into those that fit all that were kept before them and the
rest, which become a group of their own. In the end no two members of a group lead to
different groups.
-/
import SourceOutline.Automaton.Keyword

set_option autoImplicit false

namespace SourceOutline.Automaton

open Lexing (Rivalries)

/-! ## Tokens in the way of others -/

/-- Whether a token gets in the way of another one. Keywords are told apart from other
words later, so there it does not matter. -/
def hinders (g : Grammar) (rivalries : Rivalries) (keywords token other : Nat) : Bool :=
  let r := rivalry g rivalries token other
  (r.conflicts || r.overrides)
    && !(other = g.word && keywords.testBit token)
    && !(token = g.word && keywords.testBit other)

/-- For each token the tokens that get in its way. The end of the text counts as the
first token with a pattern does. -/
def hindrances (g : Grammar) (rivalries : Rivalries) (keywords : Nat) : Array Nat :=
  (Array.range g.firstVariable).map fun other =>
    if g.isToken other then
      let tokens := tokensWhere g fun token => hinders g rivalries keywords token other
      let r := rivalry g rivalries g.firstToken other
      if r.conflicts || r.overrides then tokens ||| (1 <<< g.textEnd) else tokens
    else 0

/-- The tokens that a scanner finds, and the end of a construct between tokens. Nothing
is known of how they agree with others. -/
def unknownTokens (g : Grammar) : Nat :=
  (1 <<< g.scanned.size - 1) ||| (1 <<< g.extraEnd)

/-- The tokens that get in the way of a set of tokens and do not belong to it. -/
def barredBy (g : Grammar) (hindering : Array Nat) (tokens : Nat) : Nat :=
  let all := (Grammar.tokensOf g.firstVariable tokens).foldl
    (fun bits token => bits ||| hindering.getD token 0) (unknownTokens g)
  all ^^^ (all &&& tokens)

/-! ## Groups -/

/-- What is known of the states before they are put together. -/
structure Unmerged where
  grammar : Grammar
  cores : Array Core
  /-- The core of each state. -/
  coreOf : Array Nat
  /-- For each state where its core's moves lead. -/
  targets : Array (Array Nat)
  /-- The profile of each state. -/
  profileOf : Array Nat
  profiles : Array Profile
  /-- For each profile the tokens that get in the way of its tokens. -/
  barred : Array Nat
  /-- For each list of actions whether it reads the token. -/
  reads : Array Bool

/-- A division of the states into groups. -/
structure Grouping where
  groups : Array (Array Nat)
  groupOf : Array Nat

/-- What the members of a group do together. A number is zero if nothing is known, and
the group that a move leads to is counted from one. -/
structure Joint where
  tokens : Nat := 0
  barred : Nat := 0
  /-- For each token the list of actions. -/
  entries : Array Nat
  /-- For each move of the core the group it leads to. -/
  targets : Array Nat

namespace Unmerged

/-- Whether two rows agree where both are known. Counts down. -/
def rowsAgree (a b : Array Nat) : Nat → Bool
  | 0 => true
  | n + 1 =>
    let x := a.getD n 0
    let y := b.getD n 0
    (x = 0 || y = 0 || x = y) && rowsAgree a b n

/-- Puts what one row knows where the other knows nothing. -/
def fillRow (row : Array Nat) (other : Array Nat) : Array Nat :=
  row.mapIdx fun n x => if x = 0 then other.getD n 0 else x

variable (u : Unmerged)

/-- The profile of a state. -/
def profile (state : Nat) : Profile := u.profiles.getD (u.profileOf.getD state 0) ⟨#[], 0⟩

/-- The core of a state. -/
def core (state : Nat) : Core := u.cores.getD (u.coreOf.getD state 0) ⟨#[], #[], #[], #[]⟩

/-- The group to which a move of a state leads, counted from one. A move on a token that
the state does not read leads nowhere. -/
def leadsTo (groupOf : Array Nat) (entries targets : Array Nat) (symbol move : Nat) : Nat :=
  if u.grammar.isVariable symbol || u.reads.getD (entries.getD symbol 0) false then
    groupOf.getD (targets.getD move 0) 0 + 1
  else 0

/-- Whether the moves of a state lead where those of a group do. Counts down. -/
def movesAgree (groupOf : Array Nat) (entries targets : Array Nat) (moves : Array Move)
    (joint : Array Nat) (withVariables : Bool) : Nat → Bool
  | 0 => true
  | n + 1 =>
    let known := joint.getD n 0
    (known = 0 ||
      match moves[n]? with
      | some move =>
        if !withVariables && u.grammar.isVariable move.symbol then true
        else
          let group := u.leadsTo groupOf entries targets move.symbol n
          group = 0 || group = known
      | none => true)
      && movesAgree groupOf entries targets moves joint withVariables n

/-- Whether the moves of a state lead where those of a group do: all, or only those on
tokens. -/
def fitsMoves (groupOf : Array Nat) (withVariables : Bool) (joint : Joint) (state : Nat) : Bool :=
  let moves := (u.core state).moves
  u.movesAgree groupOf (u.profile state).entries (u.targets.getD state #[]) moves joint.targets
    withVariables moves.size

/-- Whether a state does the same with each token as a group does, and no token of one
gets in the way of the other. -/
def fitsTokens (groupOf : Array Nat) (joint : Joint) (state : Nat) : Bool :=
  let profile := u.profile state
  profile.tokens &&& joint.barred = 0
    && u.barred.getD (u.profileOf.getD state 0) 0 &&& joint.tokens = 0
    && rowsAgree profile.entries joint.entries profile.entries.size
    && u.fitsMoves groupOf false joint state

/-- Adds where a state leads to what is known of its group. -/
def joinMoves (groupOf : Array Nat) (joint : Joint) (state : Nat) : Joint :=
  let moves := (u.core state).moves
  let entries := (u.profile state).entries
  let targets := u.targets.getD state #[]
  { joint with
    targets := joint.targets.mapIdx fun n known =>
      if known = 0 then
        match moves[n]? with
        | some move => u.leadsTo groupOf entries targets move.symbol n
        | none => 0
      else known }

/-- Adds all that a state does to what is known of its group. -/
def join (groupOf : Array Nat) (joint : Joint) (state : Nat) : Joint :=
  let profile := u.profile state
  u.joinMoves groupOf
    { joint with
      tokens := joint.tokens ||| profile.tokens
      barred := joint.barred ||| u.barred.getD (u.profileOf.getD state 0) 0
      entries := fillRow joint.entries profile.entries } state

/-- Nothing, for a group with the core of a state. -/
def noneYet (state : Nat) : Joint :=
  { entries := Array.replicate u.grammar.firstVariable 0
    targets := Array.replicate (u.core state).moves.size 0 }

/-- Which members of a group fit all those kept before them, and which do not. Members
come with their places in the group. -/
def sift (fits : Joint → Nat → Bool) (join : Joint → Nat → Joint)
    (members : Array (Nat × Nat)) : Array (Nat × Nat) × Array (Nat × Nat) :=
  let start := u.noneYet (members.getD 0 (0, 0)).1
  let (kept, rest, _) := members.foldl (fun (kept, rest, joint) one =>
    if fits joint one.1 then (kept.push one, rest, join joint one.1)
    else (kept, rest.push one, joint))
    ((#[] : Array (Nat × Nat)), (#[] : Array (Nat × Nat)), start)
  (kept, rest)

/-- Divides a group into those that fit and the rest. The rest is ordered by the first
of the kept members that each does not fit. -/
def divide (fits : Joint → Nat → Bool) (join : Joint → Nat → Joint) (members : Array Nat) :
    Array Nat × Array Nat :=
  let (kept, rest) := u.sift fits join members.zipIdx
  let (ordered, _) := kept.foldl (fun (ordered, rest) one =>
    if rest.isEmpty then (ordered, rest)
    else
      let joint := join (u.noneYet one.1) one.1
      let (misfits, others) := rest.partition fun other =>
        one.2 < other.2 && !fits joint other.1
      (ordered ++ misfits, others)) ((#[] : Array (Nat × Nat)), rest)
  (kept.map Prod.fst, ordered.map Prod.fst)

/-- Makes the rest of a group a group of its own. -/
def separate (grouping : Grouping) (group : Nat) (kept rest : Array Nat) : Grouping :=
  let count := grouping.groups.size
  { groups := (grouping.groups.setIfInBounds group kept).push rest
    groupOf := rest.foldl (fun groupOf state => groupOf.setIfInBounds state count)
      grouping.groupOf }

/-- Divides each group in turn, the new ones too, by what is known of the groups then.
The answer says whether any was divided. The fuel bounds the number of groups. -/
def divideAll (fits : Array Nat → Joint → Nat → Bool) (join : Array Nat → Joint → Nat → Joint) :
    Nat → Nat → Bool → Grouping → Bool × Grouping
  | 0, _, changed, grouping => (changed, grouping)
  | fuel + 1, group, changed, grouping =>
    match grouping.groups[group]? with
    | none => (changed, grouping)
    | some members =>
      if members.size ≤ 1 then divideAll fits join fuel (group + 1) changed grouping
      else
        let (kept, rest) :=
          u.divide (fits grouping.groupOf) (join grouping.groupOf) members
        if rest.isEmpty then divideAll fits join fuel (group + 1) changed grouping
        else divideAll fits join fuel (group + 1) true (separate grouping group kept rest)

/-- Divides until all members of a group lead to the same groups. -/
def settle : Nat → Grouping → Grouping
  | 0, grouping => grouping
  | fuel + 1, grouping =>
    match u.divideAll (u.fitsMoves · true) u.joinMoves u.coreOf.size 0 false grouping with
    | (true, grouping) => settle fuel grouping
    | (false, grouping) => grouping

/-- One group for each core. -/
def byCore : Grouping :=
  { groups := u.coreOf.zipIdx.foldl (fun groups (core, state) =>
      groups.modify core fun members => members.push state) (Array.replicate u.cores.size #[])
    groupOf := u.coreOf }

/-- The states that are put together. -/
def merge : Grouping :=
  let (_, grouping) := u.divideAll u.fitsTokens u.join u.coreOf.size 0 false u.byCore
  u.settle u.coreOf.size grouping

end Unmerged

/-- What is known of the states of an automaton. -/
def Unmerged.ofCanonical (g : Grammar) (rivalries : Rivalries) (keywords : Nat)
    (c : Canonical) (profiles : Profiles) : Unmerged :=
  let hindering := hindrances g rivalries keywords
  let barred := profiles.profiles.foldl (fun (table : Std.HashMap TokenSet Nat) profile =>
    let key : TokenSet := ⟨profile.tokens⟩
    if table.contains key then table
    else table.insert key (barredBy g hindering profile.tokens)) ∅
  { grammar := g
    cores := c.cores.map fun core => core.getD ⟨#[], #[], #[], #[]⟩
    coreOf := c.states.map (·.core)
    targets := c.targets
    profileOf := profiles.ofState
    profiles := profiles.profiles
    barred := profiles.profiles.map fun profile => barred.getD ⟨profile.tokens⟩ 0
    reads := profiles.entries.map fun actions => actions.any Action.isShift }

end SourceOutline.Automaton
