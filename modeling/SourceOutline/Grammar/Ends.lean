/-
The tokens with which what a symbol stands for can begin and end. A set of tokens is a
number with one bit for each token. No variable but the start stands for the empty
text, so the first step of a production alone decides how it begins.
-/
import SourceOutline.Grammar.Basic

set_option autoImplicit false

namespace SourceOutline.Grammar

/-- The tokens of a set, in increasing order. -/
def tokensOf (count : Nat) (set : Nat) : List Nat := (List.range count).filter set.testBit

/-- For each variable the tokens that its productions lead to, when `pick` says which
step of a production counts. One round adds what the variables gave in the round
before. -/
def spreadRound (g : Grammar) (pick : List Step → Option Step) (sets : Array Nat) : Array Nat :=
  g.nonterminals.zipIdx.foldl (fun sets (entry, index) =>
    let added := entry.productions.foldl (fun bits production =>
      match pick production.steps with
      | some step => bits ||| sets.getD step.symbol 0
      | none => bits) 0
    sets.modify (g.firstVariable + index) fun bits => bits ||| added) sets

/-- Rounds until nothing changes. -/
def spread (g : Grammar) (pick : List Step → Option Step) : Nat → Array Nat → Array Nat
  | 0, sets => sets
  | fuel + 1, sets =>
    let next := spreadRound g pick sets
    if next = sets then sets else spread g pick fuel next

/-- For each symbol the tokens a production may lead to by its picked step. -/
def ends (g : Grammar) (pick : List Step → Option Step) : Array Nat :=
  spread g pick g.symbolCount
    ((Array.range g.symbolCount).map fun n => if n < g.firstVariable then 1 <<< n else 0)

/-- The tokens with which each symbol can begin. -/
def firstTokens (g : Grammar) : Array Nat := ends g List.head?

/-- The tokens with which each symbol can end. -/
def lastTokens (g : Grammar) : Array Nat := ends g List.getLast?

/-- For each token the tokens that can come right after it. A token that may stand
anywhere can come after every token and before every token. -/
def followingTokens (g : Grammar) : Array Nat :=
  let first := firstTokens g
  let last := lastTokens g
  let pairs := g.nonterminals.toList.flatMap fun entry =>
    entry.productions.flatMap fun production =>
      (production.steps.zip production.steps.tail).map fun (a, b) => (a.symbol, b.symbol)
  let none := Array.replicate g.firstVariable 0
  let following := pairs.eraseDups.foldl (fun following (a, b) =>
    let after := first.getD b 0
    (tokensOf g.firstVariable (last.getD a 0)).foldl (fun following token =>
      following.modify token fun bits => bits ||| after) following) none
  let anywhere := (g.extras.filter g.isToken).foldl (fun bits n => bits ||| (1 <<< n)) 0
  let all := 1 <<< g.firstVariable - 1
  following.mapIdx fun token bits =>
    if anywhere.testBit token then all else bits ||| anywhere

end SourceOutline.Grammar
