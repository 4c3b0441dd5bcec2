import ClientGen.Number.Double

/-!
# Sums and products of doubles

Both are computed exactly and rounded once, to the nearest double ([Double.ofDyadic]). A sum that is
zero is negative only if both of its parts are.
-/

namespace ClientGen.Double

/-- Whether a double has a minus sign. -/
def isNegative : Double → Bool
  | .nan => false
  | .infinite negative => negative
  | .finite negative _ _ => negative

/-- The double with the other sign. -/
def neg : Double → Double
  | .nan => .nan
  | .infinite negative => .infinite !negative
  | .finite negative m e => .finite (!negative) m e

/-- The double nearest to `± n · 2 ^ e`. -/
def ofDyadic (negative : Bool) (n : Nat) (e : Int) : Double :=
  if n = 0 then zero negative
  else ofRatio negative (n * twoTo e.toNat) (twoTo (-e).toNat)

/-- The double nearest to a natural number, unless it is beyond the finite ones. -/
def ofNat? (n : Nat) : Option Double :=
  match ofDyadic false n 0 with
  | .infinite _ => none
  | d => some d

/-- A product. -/
def mul (a b : Double) : Double :=
  let negative := a.isNegative != b.isNegative
  match a, b with
  | .nan, _ => .nan
  | _, .nan => .nan
  | .finite _ m d, .finite _ n e => ofDyadic negative (m * n) (d + e)
  | a, b => if a.isZero || b.isZero then .nan else .infinite negative

/-- The whole number that a mantissa with a sign is at a lower exponent. -/
def scaled (negative : Bool) (m : Nat) (e low : Int) : Int :=
  let n : Int := m * twoTo (e - low).toNat
  if negative then -n else n

/-- A sum. -/
def add (a b : Double) : Double :=
  match a, b with
  | .nan, _ => .nan
  | _, .nan => .nan
  | .infinite r, .infinite s => if r = s then .infinite r else .nan
  | .infinite r, _ => .infinite r
  | _, .infinite s => .infinite s
  | .finite r m d, .finite s n e =>
    let low := min d e
    let sum := scaled r m d low + scaled s n e low
    if sum = 0 then zero (r && s) else ofDyadic (sum < 0) sum.natAbs low

end ClientGen.Double
