/-
Tokens read one character at a time. The automaton of the tokens may be in several
states at once; here each set of them is one state, so that reading a character is a
single look-up. A match goes on as long as something longer may win.
-/
import SourceOutline.Lexing.Nfa

set_option autoImplicit false

namespace SourceOutline.Lexing

/-- What stands for a state while the automaton is built: the states of the tokens, and
whether the text may end here. -/
structure DfaKey where
  states : List Nat
  mayEnd : Bool
deriving BEq, Hashable

/-- Where a character leads. -/
structure DfaMove where
  target : Nat
  /-- Whether the character is a separator in front of the token. -/
  separator : Bool

/-- A state. -/
structure DfaState where
  /-- The token that is complete here. -/
  complete : Option Nat
  /-- Whether the text may end here. -/
  mayEnd : Bool
  /-- For each class of characters where it leads. -/
  moves : Array (Option DfaMove)

/-- The automaton as far as it is built. -/
structure Dfa where
  keys : Array DfaKey := #[]
  numbers : Std.HashMap DfaKey Nat := ∅
  states : Array DfaState := #[]

namespace Dfa

/-- The number of a state, which is a new one if the state was not met before. -/
def add (dfa : Dfa) (key : DfaKey) : Nat × Dfa :=
  match dfa.numbers[key]? with
  | some number => (number, dfa)
  | none =>
    let count := dfa.keys.size
    (count, { dfa with keys := dfa.keys.push key, numbers := dfa.numbers.insert key count })

/-- The token that is preferred among those that are complete. -/
def best (nfa : Nfa) : List (Nat × Int) → Option (Nat × Int) → Option (Nat × Int)
  | [], found => found
  | one :: rest, none => best nfa rest (some one)
  | one :: rest, some other =>
    best nfa rest (some (if nfa.prefersToken other one then other else one))

/-- Enters a move for each class in a set. -/
def enterMove (move : DfaMove) (classes : Nat) (moves : Array (Option DfaMove)) :
    Array (Option DfaMove) :=
  moves.mapIdx fun n old => if classes.testBit n then some move else old

/-- Works out one state. -/
def visit (nfa : Nfa) (dfa : Dfa) (key : DfaKey) : Dfa :=
  let complete := best nfa (nfa.completions key.states) none
  let within := nfa.withinSeparator key.states
  let branches := (nfa.branches key.states).filter fun branch =>
    complete.all fun one => nfa.prefersBranch branch one within
  let nowhere : Array (Option DfaMove) :=
    Array.replicate nfa.alphabet.signatures.size none
  let (moves, dfa) := branches.foldl (fun (moves, dfa) branch =>
    let (target, dfa) := dfa.add ⟨nfa.closure branch.targets, key.mayEnd && branch.separator⟩
    (enterMove ⟨target, branch.separator⟩ branch.classes moves, dfa)) (nowhere, dfa)
  { dfa with states := dfa.states.push ⟨complete.map Prod.fst, key.mayEnd, moves⟩ }

/-- Works out the states in turn, until none is left. The fuel bounds their number. -/
def visitAll (nfa : Nfa) : Nat → Dfa → Dfa
  | 0, dfa => dfa
  | fuel + 1, dfa =>
    match dfa.keys[dfa.states.size]? with
    | some key => visitAll nfa fuel (dfa.visit nfa key)
    | none => dfa

end Dfa

/-- A set of tokens to be looked for, counted from zero, and whether the end of the text
is looked for as well. -/
structure TokenSearch where
  tokens : List Nat
  mayEnd : Bool

/-- One automaton for several searches, and the state each begins in. -/
def Dfa.ofSearches (nfa : Nfa) (searches : Array TokenSearch) : Array Nat × Dfa :=
  let (starts, dfa) := searches.foldl (fun (starts, dfa) search =>
    let states := nfa.closure (search.tokens.map fun token => nfa.starts.getD token 0)
    let (start, dfa) := Dfa.add dfa ⟨states, search.mayEnd⟩
    (starts.push start, dfa)) ((#[] : Array Nat), ({} : Dfa))
  (starts, dfa.visitAll nfa 1000000)

end SourceOutline.Lexing
