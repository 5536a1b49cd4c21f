/-
Classes of characters. The patterns of a grammar mention a fixed list of character
sets, and two characters that lie in the same ones of them need never be told apart.
A class is a bit of a number, so that a set of classes is one number too.
-/
import Std.Data.HashMap
import SourceOutline.Text.Ranges

set_option autoImplicit false

namespace SourceOutline.Lexing

open Text (Ranges)

/-- The classes of characters for a list of sets. The code points are cut into
stretches, each of which lies in one class. -/
structure Alphabet where
  /-- The sets. -/
  sets : Array Ranges
  /-- The first code point of each stretch, in increasing order. -/
  cuts : Array Nat
  /-- The class of each stretch. -/
  classes : Array Nat
  /-- For each class, the sets it lies in, as bits. -/
  signatures : Array Nat
  /-- The class of each ASCII character. -/
  ascii : Array Nat

namespace Alphabet

/-- Where membership in one of the sets changes: the code point and the set. -/
def changes (sets : List Ranges) : List (Nat × Nat) :=
  let all := sets.zipIdx.flatMap fun (set, index) =>
    set.flatMap fun (first, last) => [(first, index), (last + 1, index)]
  all.mergeSort fun a b => a.1 ≤ b.1

/-- The stretches of equal membership, from the changes: where each begins, and the sets
it lies in. -/
def stretches (start memberships : Nat) : List (Nat × Nat) → List (Nat × Nat)
  | [] => [(start, memberships)]
  | (place, index) :: rest =>
    let after := memberships ^^^ (1 <<< index)
    if place = start then stretches start after rest
    else (start, memberships) :: stretches place after rest

/-- The last place among `count` of them, from `low` on, whose cut is not beyond a code
point. The fuel bounds the halvings. -/
def search (cuts : Array Nat) (point : Nat) : Nat → Nat → Nat → Nat
  | 0, low, _ => low
  | fuel + 1, low, count =>
    if count ≤ 1 then low
    else
      let half := count / 2
      if cuts.getD (low + half) Text.Ranges.limit ≤ point then
        search cuts point fuel (low + half) (count - half)
      else search cuts point fuel low half

/-- The class of a code point, by its stretch. -/
def classFrom (cuts classes : Array Nat) (point : Nat) : Nat :=
  classes.getD (search cuts point 32 0 cuts.size) 0

/-- The alphabet of some sets. -/
def ofSets (sets : List Ranges) : Alphabet :=
  let sets := sets.eraseDups
  let found := stretches 0 0 (changes sets)
  let signatures := (found.map Prod.snd).eraseDups
  let number : Std.HashMap Nat Nat :=
    signatures.zipIdx.foldl (fun table one => table.insert one.1 one.2) ∅
  let cuts := (found.map Prod.fst).toArray
  let classes := (found.map fun one => number.getD one.2 0).toArray
  { sets := sets.toArray
    cuts, classes
    signatures := signatures.toArray
    ascii := (Array.range 128).map (classFrom cuts classes) }

/-- The class of a character. -/
def classOf (alphabet : Alphabet) (c : Char) : Nat :=
  let point := c.toNat
  if point < 128 then alphabet.ascii.getD point 0
  else classFrom alphabet.cuts alphabet.classes point

/-- The classes that make up one of the sets. -/
def classesOf (alphabet : Alphabet) (set : Ranges) : Nat :=
  match alphabet.sets.findIdx? fun one => one = set with
  | some index =>
    (List.range alphabet.signatures.size).foldl (fun bits n =>
      if (alphabet.signatures.getD n 0).testBit index then bits ||| (1 <<< n) else bits) 0
  | none => 0

/-- Whether all characters of some classes lie in a set. -/
def within (alphabet : Alphabet) (classes : Nat) (set : Ranges) : Bool :=
  (List.range alphabet.cuts.size).all fun n =>
    let first := alphabet.cuts.getD n 0
    let last := alphabet.cuts.getD (n + 1) Text.Ranges.limit - 1
    !classes.testBit (alphabet.classes.getD n 0)
      || set.any fun range => range.1 ≤ first && last ≤ range.2

end Alphabet

end SourceOutline.Lexing
