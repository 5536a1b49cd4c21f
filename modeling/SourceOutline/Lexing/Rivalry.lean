/-
How the tokens of a grammar get in each other's way. Two tokens are followed through
all the texts that both may still match; on the way it shows whether they match the
same text, and whether one goes on where the other is complete.

These relations decide which tokens may be looked for at the same time, which words
are keywords, and which states of a parser may be put together.
-/
import SourceOutline.Grammar.Ends
import SourceOutline.Lexing.Nfa

set_option autoImplicit false

namespace SourceOutline.Lexing

/-- What one token does to another. -/
structure Rivalry where
  /-- It matches a text after which the other would go on with less right. -/
  cutsShort : Bool := false
  /-- It goes on where the other is complete. -/
  outruns : Bool := false
  /-- It goes on where the other is complete, by a character that may come after the
  other. -/
  swallows : Bool := false
  /-- It is complete where the other is still among separators. -/
  inSeparators : Bool := false
  /-- It matches the same text as the other, and is preferred. -/
  overrides : Bool := false
  /-- It matches a text that the other does not. -/
  differs : Bool := false
deriving DecidableEq

namespace Rivalry

/-- Whether looking for both may go wrong for the other. -/
def conflicts (r : Rivalry) : Bool := r.swallows || r.inSeparators || r.overrides

/-- Whether the two share any text at all, or the beginning of one. -/
def overlaps (r : Rivalry) : Bool := r.inSeparators || r.cutsShort || r.overrides || r.outruns

end Rivalry

/-- What two tokens do to each other. -/
structure Contest where
  left : Rivalry := {}
  right : Rivalry := {}

/-- Adds to what one of the two does: the left one if `isLeft`. -/
def Contest.note (contest : Contest) (isLeft : Bool) (f : Rivalry → Rivalry) : Contest :=
  if isLeft then { contest with left := f contest.left }
  else { contest with right := f contest.right }

/-- The completions of a set of states, one after the other. -/
def Nfa.judgeCompletions (nfa : Nfa) (i : Nat) (within : Bool) :
    List (Nat × Int) → Option (Nat × Int) → Contest → Contest × Option (Nat × Int)
  | [], best, contest => (contest, best)
  | one :: rest, best, contest =>
    let contest := if within then
        contest.note (one.1 = i) fun r => { r with inSeparators := true }
      else contest
    match best with
    | none => nfa.judgeCompletions i within rest (some one) contest
    | some other =>
      if one.1 = other.1 then nfa.judgeCompletions i within rest best contest
      else
        let winner := if nfa.prefersToken other one then other else one
        nfa.judgeCompletions i within rest (some winner)
          (contest.note (winner.1 = i) fun r => { r with overrides := true })

/-- What a branch says when a token is complete already: whether the other token goes
on. -/
def Nfa.judgeBranch (nfa : Nfa) (following : Array Nat) (i j : Nat) (within : Bool)
    (completed : Nat × Int) (branch : Branch) (contest : Contest) : Contest :=
  let owners := branch.targets.map nfa.owner
  if owners.contains completed.1 then contest
  else
    match owners.getLast? with
    | none => contest
    | some other =>
      if nfa.prefersBranch branch completed within then
        let after := following.getD (if other = i then j else i) 0
        contest.note (other = i) fun r =>
          { r with outruns := true, swallows := r.swallows || branch.classes &&& after != 0 }
      else contest.note (completed.1 = i) fun r => { r with cutsShort := true }

/-- Follows two tokens through all that both may still match. The fuel bounds the number
of sets of states looked at. -/
def Nfa.follow (nfa : Nfa) (following : Array Nat) (i j : Nat) :
    Nat → List (List Nat) → List (List Nat) → Contest → Contest
  | 0, _, _, contest => contest
  | _, [], _, contest => contest
  | fuel + 1, set :: pending, seen, contest =>
    let hasLeft := set.any fun n => nfa.owner n = i
    let hasRight := set.any fun n => nfa.owner n ≠ i
    if !(hasLeft && hasRight) then
      nfa.follow following i j fuel pending seen
        (contest.note hasLeft fun r => { r with differs := true })
    else
      let states := nfa.closure set
      let within := nfa.withinSeparator states
      let (contest, completed) :=
        nfa.judgeCompletions i within (nfa.completions states) none contest
      let branches := nfa.branches states
      let contest := match completed with
        | some one => branches.foldl (fun contest branch =>
            nfa.judgeBranch following i j within one branch contest) contest
        | none => contest
      let fresh := (branches.map (·.targets)).filter fun targets => !seen.contains targets
      nfa.follow following i j fuel (fresh ++ pending) (fresh ++ seen) contest

/-- The rivalries of all tokens: of the first with the second. -/
structure Rivalries where
  table : Array (Array Rivalry)

/-- What a token does to another. -/
def Rivalries.of (rivalries : Rivalries) (a b : Nat) : Rivalry :=
  (rivalries.table.getD a #[]).getD b {}

/-- Whether a token is the shorter of two that may stand at the same place. -/
def Rivalries.isShorter (rivalries : Rivalries) (a b : Nat) : Bool :=
  let r := rivalries.of a b
  (r.swallows || r.inSeparators) && !(rivalries.of b a).inSeparators

/-- For each token the classes of characters that may come right after it. -/
def followingClasses (g : Grammar) (nfa : Nfa) : Array Nat :=
  let leading := nfa.starts.map fun start => nfa.leadingClasses (nfa.closure [start])
  let following := Grammar.followingTokens g
  (Array.range g.tokens.size).map fun index =>
    (List.range g.tokens.size).foldl (fun bits other =>
      if (following.getD (g.firstToken + index) 0).testBit (g.firstToken + other) then
        bits ||| leading.getD other 0
      else bits) 0

/-- The rivalries of a grammar's tokens. -/
def Rivalries.ofNfa (g : Grammar) (nfa : Nfa) : Rivalries :=
  let following := followingClasses g nfa
  let contests := (Array.range g.tokens.size).map fun i =>
    (Array.range i).map fun j =>
      nfa.follow following i j (4 * nfa.states.size)
        [insertSorted (nfa.starts.getD i 0) [nfa.starts.getD j 0]] [] {}
  let contest (i j : Nat) : Contest := (contests.getD i #[]).getD j {}
  { table := (Array.range g.tokens.size).map fun i =>
      (Array.range g.tokens.size).map fun j =>
        if j < i then (contest i j).left else (contest j i).right }

end SourceOutline.Lexing
