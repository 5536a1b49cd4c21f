/-
Numbered sets of tokens. A set is a number with a bit for each token. There are few
different sets in an automaton but many uses of them, so each is kept once and goes by
a small number, and the union of two is worked out once.
-/
import Std.Data.HashMap

set_option autoImplicit false

namespace SourceOutline.Automaton

/-- A set of tokens as a key of a table. -/
structure TokenSet where
  bits : Nat
deriving DecidableEq

/-- All the bits go into the hash, in portions that fit a machine word. -/
def hashBits : Nat → Nat → UInt64 → UInt64
  | 0, _, seed => seed
  | fuel + 1, bits, seed =>
    if bits = 0 then seed
    else hashBits fuel (bits >>> 60) (mixHash seed (hash (bits % (1 <<< 60))))

instance : Hashable TokenSet := ⟨fun set => hashBits 16 set.bits 7⟩

/-- The sets met so far, and the unions worked out so far. -/
structure TokenSets where
  sets : Array Nat := #[]
  numbers : Std.HashMap TokenSet Nat := ∅
  unions : Std.HashMap Nat Nat := ∅

namespace TokenSets

/-- The bits of a set. -/
def bits (s : TokenSets) (number : Nat) : Nat := s.sets.getD number 0

/-- The number of a set that has one. -/
def number (s : TokenSets) (bits : Nat) : Nat := s.numbers.getD ⟨bits⟩ 0

/-- Sees to it that a set has a number. -/
def add (s : TokenSets) (bits : Nat) : TokenSets :=
  if s.numbers.contains ⟨bits⟩ then s
  else
    let count := s.sets.size
    { s with sets := s.sets.push bits, numbers := s.numbers.insert ⟨bits⟩ count }

/-- The key of a pair. The numbers of sets are far below the factor. -/
def pairKey (a b : Nat) : Nat := a * (1 <<< 24) + b

/-- The number of the union of two sets, once it has been worked out. -/
def union? (s : TokenSets) (a b : Nat) : Option Nat :=
  if a = b then some a else s.unions[pairKey a b]?

/-- Works out the union of two sets. -/
def addUnion (s : TokenSets) (a b : Nat) : TokenSets :=
  let both := s.bits a ||| s.bits b
  let s := s.add both
  { s with unions := s.unions.insert (pairKey a b) (s.numbers.getD ⟨both⟩ 0) }

end TokenSets

end SourceOutline.Automaton
