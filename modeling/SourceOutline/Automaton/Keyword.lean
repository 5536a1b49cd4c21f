/-
Keywords. Most grammars have one token for words of all kinds, and some words that mean
something of their own. Such a word is read by the token for words first and only then
told apart from the others, provided that this makes no difference. Whether it does
depends on which tokens may stand at the same place.
-/
import SourceOutline.Automaton.Profile
import SourceOutline.Lexing.Rivalry

set_option autoImplicit false

namespace SourceOutline.Automaton

open Lexing (Nfa Rivalries)

/-! ## Tokens side by side -/

/-- For each token the tokens that may stand in its place in some state. -/
structure Company where
  together : Array Nat
  /-- Counting only states in which no word may stand. -/
  withoutWord : Array Nat

/-- Adds what one state takes: all its tokens are in each other's company. -/
def accompany (table : Array Nat) (count tokens : Nat) : Array Nat :=
  (Grammar.tokensOf count tokens).foldl (fun table token =>
    table.modify token fun bits => bits ||| tokens) table

/-- The company of each token, from the sets of tokens that states take. -/
def Company.ofSets (g : Grammar) (sets : Array Nat) : Company :=
  let none := Array.replicate g.firstVariable 0
  let add (table : Array Nat) (tokens : Nat) : Array Nat :=
    accompany table g.firstVariable tokens
  { together := sets.foldl add none
    withoutWord := (sets.filter fun tokens => !tokens.testBit g.word).foldl add none }

/-- Whether two tokens may stand at the same place. -/
def Company.areTogether (company : Company) (a b : Nat) : Bool :=
  (company.together.getD a 0).testBit b

/-! ## What a token does to another -/

/-- The rivalry of two tokens of a grammar. -/
def rivalry (g : Grammar) (rivalries : Rivalries) (a b : Nat) : Lexing.Rivalry :=
  rivalries.of (a - g.firstToken) (b - g.firstToken)

/-- The tokens with a pattern. -/
def patternTokens (g : Grammar) : List Nat :=
  (List.range g.tokens.size).map (g.firstToken + ·)

/-- The tokens with a pattern that have a property, as a set. -/
def tokensWhere (g : Grammar) (p : Nat → Bool) : Nat :=
  (patternTokens g).foldl (fun bits token => if p token then bits ||| (1 <<< token) else bits) 0

/-! ## Words of their own -/

/-- The characters with which a keyword begins. -/
def keywordStarts : Text.Ranges := [(0x41, 0x5a), (0x5f, 0x5f), (0x61, 0x7a)]

/-- The classes of characters with which a token itself begins, behind the separators. -/
def ownLeadingClasses (nfa : Nfa) (index : Nat) : Nat :=
  (nfa.closure [nfa.starts.getD index 0]).foldl (fun bits (n : Nat) =>
    match nfa.states[n]? with
    | some (.move classes _ false _) => bits ||| classes
    | _ => bits) 0

/-- Whether a token looks like a word: it begins as one, and it is a word that is
preferred to the token for words. -/
def isWordLike (g : Grammar) (nfa : Nfa) (rivalries : Rivalries) (token : Nat) : Bool :=
  let leading := ownLeadingClasses nfa (token - g.firstToken)
  let r := rivalry g rivalries token g.word
  token ≠ g.word && leading ≠ 0 && nfa.alphabet.within leading keywordStarts
    && r.overrides && !r.differs

/-- The keywords of a grammar, as a set: the tokens that look like words, unless another
such token takes their place, or some third token that may stand beside them where no
word may stand would treat a word differently. -/
def keywords (g : Grammar) (nfa : Nfa) (rivalries : Rivalries) (company : Company) :
    Nat :=
  let candidates := tokensWhere g (isWordLike g nfa rivalries)
  tokensWhere g fun token =>
    candidates.testBit token
      && (patternTokens g).all fun other =>
        if candidates.testBit other then
          other = token || !(rivalry g rivalries other token).overrides
        else
          !(company.withoutWord.getD token 0).testBit other
            || rivalry g rivalries token other = rivalry g rivalries g.word other

end SourceOutline.Automaton
