/-
Sets of characters given as ranges of code points. The tables of this library
are long and sparse, so a set is a list of disjoint ranges in increasing order,
and a look-up walks the list only as far as it has to.
-/

set_option autoImplicit false

namespace SourceOutline.Text

/-- Disjoint ranges of code points, both ends included, in increasing order. -/
abbrev Ranges := List (Nat × Nat)

namespace Ranges

/-- Whether a code point lies in one of the ranges. The walk ends at the first
range that starts beyond the code point. -/
def holds : Ranges → Nat → Bool
  | [], _ => false
  | (first, last) :: rest, n =>
    if n < first then false else if n ≤ last then true else holds rest n

/-- The first number beyond all code points. -/
def limit : Nat := 0x110000

/-- The code points from a number on that lie in none of the ranges. -/
def gapsFrom (start : Nat) : Ranges → Ranges
  | [] => if start < limit then [(start, limit - 1)] else []
  | (first, last) :: rest =>
    if start < first then (start, first - 1) :: gapsFrom (last + 1) rest
    else gapsFrom (last + 1) rest

/-- The code points that lie in none of the ranges. -/
def complement (ranges : Ranges) : Ranges := gapsFrom 0 ranges

/-- The code points in one of two sets that have none in common. -/
def union (a b : Ranges) : Ranges := List.merge a b fun x y => x.1 ≤ y.1

/-- The code points of a set without some of them. -/
def difference (a b : Ranges) : Ranges := (a.complement.union b).complement

/-- The characters of a text, each a range of its own. -/
def ofChars (text : String) : Ranges :=
  ((text.toList.map Char.toNat).mergeSort fun a b => a ≤ b).eraseDups.map fun n => (n, n)

end Ranges

end SourceOutline.Text
