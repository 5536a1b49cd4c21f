/-
Decimal numerals that stand for doubles. Which numerals are too large is decided in
exact arithmetic: a numeral stands for infinity if it is no nearer to the greatest
double than to the power of two after it.
-/

set_option autoImplicit false

namespace SourceOutline.Text

/-- Drops a leading sign of the given ones. -/
def dropSign (signs : List Char) : List Char → List Char
  | c :: cs => if signs.contains c then cs else c :: cs
  | [] => []

/-- The least number that is too large for a double: from here on the nearest double
would be infinite. -/
def doubleBound : Nat := 1 <<< 1024 - 1 <<< 970

/-- Whether digits times a power of ten stay within the doubles. -/
def isFinite (digits : List Char) (exponent : Int) : Bool :=
  let n := Nat.ofDigitChars 10 digits 0
  if n = 0 then true
  else if 0 ≤ exponent then
    let e := exponent.toNat
    if 400 < e then false else n * Nat.pow 10 e < doubleBound
  else
    let e := (-exponent).toNat
    -- A quotient of this many digits is small whatever its digits are.
    if digits.length ≤ e then true else n < doubleBound * Nat.pow 10 e

/-- Whether a text is a decimal numeral, perhaps with a point and an exponent, whose
value is a finite double. -/
def isDecimal (cs : List Char) : Bool :=
  let cs := dropSign ['-', '+'] cs
  let whole := cs.takeWhile Char.isDigit
  let rest := cs.dropWhile Char.isDigit
  let (fraction, rest) := match rest with
    | '.' :: rest => (rest.takeWhile Char.isDigit, rest.dropWhile Char.isDigit)
    | _ => ([], rest)
  if whole.isEmpty && fraction.isEmpty then false
  else
    let shift : Int := -(fraction.length : Int)
    match rest with
    | [] => isFinite (whole ++ fraction) shift
    | e :: rest =>
      if e == 'e' || e == 'E' then
        let negative := rest.head? == some '-'
        let digits := dropSign ['-', '+'] rest
        if digits.isEmpty || !digits.all Char.isDigit then false
        else
          let n : Int := (Nat.ofDigitChars 10 digits 0 : Int)
          isFinite (whole ++ fraction) ((if negative then -n else n) + shift)
      else false

end SourceOutline.Text
