/-
The tokens of a grammar as one finite automaton that may be in several states at a
time. Each token has its own states, so that the tokens that are still possible can be
read off the states.

In front of a token that need not follow without a gap there may be separators. A move
over a separator is marked, because it is no part of the token.
-/
import SourceOutline.Grammar.Basic
import SourceOutline.Lexing.Alphabet

set_option autoImplicit false

namespace SourceOutline.Lexing

open Grammar (Lexeme Token)

/-- A state of the automaton. -/
inductive NfaState where
  /-- The token is complete. -/
  | complete (token : Nat) (precedence : Int)
  /-- One character of some classes leads on. -/
  | move (classes : Nat) (next : Nat) (separator : Bool) (precedence : Int)
  /-- Two states at once. -/
  | split (first second : Nat)

/-- The automaton of a grammar's tokens. Tokens are counted from zero. -/
structure Nfa where
  alphabet : Alphabet
  states : Array NfaState
  /-- The token each state belongs to. -/
  owners : Array Nat
  /-- The first state of each token. -/
  starts : Array Nat
  /-- For each state, the states other than splits it stands for, in increasing order. -/
  reach : Array (List Nat)
  /-- Of each token, what it says when several match. -/
  tokens : Array Token

/-! ## Construction -/

/-- The states of a pattern, in front of a state that is there already. The answer is
the first of them. -/
def addLexeme (alphabet : Alphabet) (separator : Bool) (precedence : Int) :
    Lexeme → Nat → StateM (Array NfaState) Nat
  | .empty, next => pure next
  | .oneOf set, next => modifyGet fun states =>
      (states.size, states.push (.move (alphabet.classesOf set) next separator precedence))
  | .seq first second, next => do
      addLexeme alphabet separator precedence first
        (← addLexeme alphabet separator precedence second next)
  | .either first second, next => do
      let a ← addLexeme alphabet separator precedence first next
      let b ← addLexeme alphabet separator precedence second next
      modifyGet fun states => (states.size, states.push (.split a b))
  | .many1 part, next => do
      let loop ← modifyGet fun states => (states.size, states.push (.split next next))
      let start ← addLexeme alphabet separator precedence part loop
      modify fun states => states.setIfInBounds loop (.split start next)
      pure start

/-- The states of a token, with the separators in front of it. -/
def addToken (alphabet : Alphabet) (separators : List Lexeme) (index : Nat) (token : Token) :
    StateM (Array NfaState) Nat := do
  let last ← modifyGet fun states =>
    (states.size, states.push (.complete index token.precedence))
  let start ← addLexeme alphabet false token.precedence token.pattern last
  if token.immediate then pure start
  else addLexeme alphabet true 0 (.many (.choice separators)) start

/-- Puts a number into an increasing list. -/
def insertSorted (n : Nat) : List Nat → List Nat
  | [] => [n]
  | m :: rest => if n < m then n :: m :: rest else if n = m then m :: rest
    else m :: insertSorted n rest

/-- The numbers of two increasing lists. -/
def mergeSorted (a b : List Nat) : List Nat := a.foldl (fun list n => insertSorted n list) b

/-- The states other than splits that some states stand for. The fuel bounds the number
of states looked at. -/
def reachFrom (states : Array NfaState) : Nat → List Nat → List Nat → List Nat → List Nat
  | 0, _, _, found => found
  | _, [], _, found => found
  | fuel + 1, n :: pending, seen, found =>
    if seen.contains n then reachFrom states fuel pending seen found
    else
      match states[n]? with
      | some (.split a b) => reachFrom states fuel (b :: a :: pending) (n :: seen) found
      | _ => reachFrom states fuel pending (n :: seen) (insertSorted n found)

/-- The sets of characters a grammar's tokens mention. -/
def mentionedSets (g : Grammar) : List Text.Ranges :=
  g.separators.flatMap Lexeme.sets ++ g.tokens.toList.flatMap fun one => one.token.pattern.sets

/-- The automaton of a grammar's tokens. -/
def Nfa.ofGrammar (g : Grammar) : Nfa :=
  let alphabet := Alphabet.ofSets (mentionedSets g)
  let tokens := g.tokens.map (·.token)
  let (states, owners, starts) := tokens.foldl
    (fun (states, owners, starts) token =>
      let (start, states) := (addToken alphabet g.separators starts.size token).run states
      (states, owners ++ Array.replicate (states.size - owners.size) starts.size,
        starts.push start))
    ((#[], #[], #[]) : Array NfaState × Array Nat × Array Nat)
  { alphabet, states, owners, starts, tokens
    reach := (Array.range states.size).map fun n =>
      reachFrom states (3 * states.size) [n] [] [] }

namespace Nfa

/-- The states other than splits that some states stand for. -/
def closure (nfa : Nfa) (set : List Nat) : List Nat :=
  set.foldl (fun found n => mergeSorted (nfa.reach.getD n []) found) []

/-- The token a state belongs to. -/
def owner (nfa : Nfa) (state : Nat) : Nat := nfa.owners.getD state 0

/-- The classes of characters that lead on from some states. -/
def leadingClasses (nfa : Nfa) (set : List Nat) : Nat :=
  set.foldl (fun bits (n : Nat) =>
    match nfa.states[n]? with
    | some (.move classes _ _ _) => bits ||| classes
    | _ => bits) 0

/-- Whether one of some states may still pass over separators. -/
def withinSeparator (nfa : Nfa) (set : List Nat) : Bool :=
  set.any fun (n : Nat) =>
    match nfa.states[n]? with
    | some (.move _ _ separator _) => separator
    | _ => false

/-- The completions among some states: token and precedence. -/
def completions (nfa : Nfa) (set : List Nat) : List (Nat × Int) :=
  set.filterMap fun (n : Nat) =>
    match nfa.states[n]? with
    | some (.complete token precedence) => some (token, precedence)
    | _ => none

end Nfa

/-! ## Moving -/

/-- Where the characters of some classes lead from a set of states. -/
structure Branch where
  classes : Nat
  /-- Whether the character can only be a separator. -/
  separator : Bool
  precedence : Int
  targets : List Nat

/-- Adds a move to branches over disjoint classes, so that they stay disjoint. -/
def addMove (next : Nat) (separator : Bool) (precedence : Int) :
    Nat → List Branch → List Branch
  | classes, [] => if classes = 0 then [] else [⟨classes, separator, precedence, [next]⟩]
  | classes, branch :: rest =>
    let shared := branch.classes &&& classes
    if shared = 0 then branch :: addMove next separator precedence classes rest
    else
      let joint : Branch :=
        ⟨shared, branch.separator && separator, max branch.precedence precedence,
          insertSorted next branch.targets⟩
      let others := branch.classes ^^^ shared
      let tail := addMove next separator precedence (classes ^^^ shared) rest
      if others = 0 then joint :: tail
      else joint :: { branch with classes := others } :: tail

/-- The branches that lead on from some states. -/
def Nfa.branches (nfa : Nfa) (set : List Nat) : List Branch :=
  set.foldl (fun found (n : Nat) =>
    match nfa.states[n]? with
    | some (.move classes next separator precedence) =>
      addMove next separator precedence classes found
    | _ => found) []

/-! ## Preference -/

/-- Whether one complete token is preferred to another: by its precedence, then because
it is a fixed text, then by its place in the grammar. -/
def Nfa.prefersToken (nfa : Nfa) (a b : Nat × Int) : Bool :=
  let rank (n : Nat) : Nat := (nfa.tokens[n]?).elim 0 Token.implicitPrecedence
  if a.2 ≠ b.2 then b.2 < a.2
  else if rank a.1 ≠ rank b.1 then rank b.1 < rank a.1
  else a.1 < b.1

/-- Whether to go on with a branch although a token is complete already. A longer match
wins, unless it has less precedence or only passes over a separator. -/
def Nfa.prefersBranch (nfa : Nfa) (branch : Branch) (completed : Nat × Int)
    (withinSeparator : Bool) : Bool :=
  if branch.precedence < completed.2 then false
  else if branch.precedence = completed.2 then
    if branch.separator then false
    else !withinSeparator || branch.targets.any fun n => nfa.owner n = completed.1
  else true

end SourceOutline.Lexing
