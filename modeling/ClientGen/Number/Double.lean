/-!
# Double-precision numbers

A double is not a number, an infinity, or `± m · 2 ^ e`. Everything is exact arithmetic on natural
numbers: [ofRatio] rounds a quotient to the nearest double, a half going to the even neighbour, and
[ofDecimal] reads decimal digits with it. The finite doubles it makes are in normal form: the
mantissa is below `2 ^ 53`, and at least `2 ^ 52` unless the exponent is the least one.
-/

namespace ClientGen

/-- A double-precision number. -/
inductive Double where
  | nan
  | infinite (negative : Bool)
  | finite (negative : Bool) (mantissa : Nat) (exponent : Int)
  deriving DecidableEq, Repr, Inhabited

namespace Double

/-- The exponent of the doubles next to zero. -/
def leastExponent : Int := -1074

/-- The exponent of the largest doubles. -/
def greatestExponent : Int := 971

/-- Zero, with a sign. -/
def zero (negative : Bool) : Double := .finite negative 0 leastExponent

/-- A power of two. -/
def twoTo (k : Nat) : Nat := Nat.pow 2 k

/-- A power of ten. -/
def tenTo (k : Nat) : Nat := Nat.pow 10 k

/-- The exponent at which the quotient of two positive numbers has a mantissa of 53 bits, or the
least exponent if that is greater. -/
def exponentOf (num den : Nat) : Int :=
  let guess : Int := (num.log2 : Int) - den.log2 - 52
  let tooFew := num * twoTo (-guess).toNat < den * twoTo (guess.toNat + 52)
  let exact := if tooFew then guess - 1 else guess
  max exact leastExponent

/-- A quotient rounded to the nearest natural number, a half going to the even one. -/
def divideToEven (num den : Nat) : Nat :=
  let q := num / den
  let twice := 2 * (num % den)
  if twice < den then q
  else if den < twice then q + 1
  else if q % 2 = 0 then q else q + 1

/-- The double nearest to a quotient of positive numbers. -/
def ofRatio (negative : Bool) (num den : Nat) : Double :=
  let e := exponentOf num den
  let m := divideToEven (num * twoTo (-e).toNat) (den * twoTo e.toNat)
  let (m, e) := if m = twoTo 53 then (twoTo 52, e + 1) else (m, e)
  if e > greatestExponent then .infinite negative else .finite negative m e

/-- The number of decimal digits of a natural number; zero has none. -/
def digitCount (n : Nat) : Nat := if n = 0 then 0 else (Nat.toDigits 10 n).length

/-- The double nearest to `digits · 10 ^ exponent`. What is far beyond the range is not computed. -/
def ofDecimal (negative : Bool) (digits : Nat) (exponent : Int) : Double :=
  let magnitude := digitCount digits + exponent
  if digits = 0 || magnitude < -400 then zero negative
  else if magnitude > 400 then .infinite negative
  else ofRatio negative (digits * tenTo exponent.toNat) (tenTo (-exponent).toNat)

/-- Whether the number is zero, of either sign. -/
def isZero : Double → Bool
  | .finite _ m _ => m == 0
  | _ => false

/-- The integer that the number is, if it is one. -/
def toInt? : Double → Option Int
  | .finite negative m e =>
    let scale := twoTo (-e).toNat
    if m % scale = 0 then
      let n : Int := m / scale * twoTo e.toNat
      some (if negative then -n else n)
    else none
  | _ => none

end Double

/-- An integer or a double. -/
inductive Number where
  | int (value : Int)
  | double (value : Double)
  deriving DecidableEq, Repr

end ClientGen
