import ClientGen.Number.Double

/-!
# The shortest decimal text of a double

[shortest] finds the fewest decimal digits that read back as a given double, and among those the
nearest to it. The grid of the `n`-digit decimals has two neighbours of the number; the first `n`
for which one of them rounds to the number wins. [Layout] says how the digits are written: between
which exponents in positional notation, and how an exponent is spelled.
-/

namespace ClientGen.Double

/-! ## The digits -/

/-- Whether `d · 10 ^ k` and `x · 2 ^ q` are in order, as told by `le` on natural numbers. -/
def compareScaled (le : Nat → Nat → Bool) (d : Nat) (k : Int) (x : Nat) (q : Int) : Bool :=
  le (d * tenTo k.toNat * twoTo (-q).toNat) (x * twoTo q.toNat * tenTo (-k).toNat)

/-- Whether `d · 10 ^ k` is nearer to `m · 2 ^ e` than to every other double. The bounds of that
interval belong to it if `m` is even; below a power of two it is half as wide. -/
def readsBack (m : Nat) (e : Int) (d : Nat) (k : Int) : Bool :=
  let low := if m = twoTo 52 && e > leastExponent then 4 * m - 1 else 4 * m - 2
  let le : Nat → Nat → Bool := if m % 2 = 0 then (· ≤ ·) else (· < ·)
  compareScaled (fun a b => le b a) d k low (e - 2) && compareScaled le d k (4 * m + 2) (e - 2)

/-- The exponent of the first decimal digit of a quotient of positive numbers. -/
def leadingExponent (num den : Nat) : Int :=
  let guess : Int := (digitCount num : Int) - digitCount den
  if den * tenTo guess.toNat ≤ num * tenTo (-guess).toNat then guess else guess - 1

/-- The `n`-digit decimal that reads back as `m · 2 ^ e`, if there is one: the nearer of the two
neighbours if both do, and the even one at the same distance. -/
def nearestWith? (m : Nat) (e : Int) (k : Int) : Option Nat :=
  let num := m * twoTo e.toNat * tenTo (-k).toNat
  let den := twoTo (-e).toNat * tenTo k.toNat
  let below := num / den
  let nearest := divideToEven num den
  let other := if nearest = below then below + 1 else below
  if readsBack m e nearest k then some nearest
  else if readsBack m e other k then some other
  else none

/-- The first of the grids from `n` digits on with a decimal that reads back, with its exponent.
Seventeen digits are always enough. -/
def shortestFrom (m : Nat) (e lead : Int) : Nat → Nat → Nat × Int
  | 0, n => (m * twoTo e.toNat / twoTo (-e).toNat, n)
  | left + 1, n =>
    let k := lead - n + 1
    match nearestWith? m e k with
    | some d => (d, k)
    | none => shortestFrom m e lead left (n + 1)

/-- The shortest decimal `digits · 10 ^ exponent` that reads back as the positive number
`m · 2 ^ e`. -/
def shortest (m : Nat) (e : Int) : Nat × Int :=
  shortestFrom m e (leadingExponent (m * twoTo e.toNat) (twoTo (-e).toNat)) 17 1

/-! ## The text -/

/-- How the digits of a number are written. -/
structure Layout where
  /-- The least exponent of the first digit that is written in positional notation. -/
  positionalFrom : Int
  /-- The first exponent that is not. -/
  positionalTo : Int
  /-- The text of the infinity. -/
  infinity : String
  /-- The text of what is not a number. -/
  notANumber : String

/-- Numbers from `0.0001` to below `10 ^ 16` are written in positional notation. -/
def plainLayout : Layout := ⟨-4, 16, "inf", "nan"⟩

/-- The layout of numbers in documents, where the infinity is spelled out. -/
def documentLayout : Layout := ⟨-4, 16, "Infinity", "NaN"⟩

/-- An exponent: its sign, and at least two digits. -/
def exponentText (lead : Int) : String :=
  let digits := toString lead.natAbs
  (if lead < 0 then "e-" else "e+") ++ (if digits.length < 2 then "0" ++ digits else digits)

/-- The decimal digits of a number without the zeros at their end. -/
def significant (n : Nat) : List Char :=
  ((Nat.toDigits 10 n).reverse.dropWhile (· == '0')).reverse

/-- Digits with a point after the first `whole` of them, filled up with zeros. -/
def pointed (digits : List Char) (whole : Nat) : List Char :=
  let front := digits.take whole ++ List.replicate (whole - digits.length) '0'
  let back := digits.drop whole
  front ++ '.' :: (if back.isEmpty then ['0'] else back)

/-- Digits whose first one has the exponent `lead`. -/
def digitsText (layout : Layout) (digits : List Char) (lead : Int) : String :=
  if lead < layout.positionalFrom || lead ≥ layout.positionalTo then
    let mantissa := match digits with
      | [] => ['0']
      | [d] => [d]
      | d :: rest => d :: '.' :: rest
    String.ofList mantissa ++ exponentText lead
  else if lead < 0 then
    String.ofList (pointed (List.replicate (-lead).toNat '0' ++ digits) 1)
  else String.ofList (pointed digits (lead.toNat + 1))

/-- The shortest text that reads back as the number. -/
def text (layout : Layout) : Double → String
  | .nan => layout.notANumber
  | .infinite negative => (if negative then "-" else "") ++ layout.infinity
  | .finite negative m e =>
    let sign := if negative then "-" else ""
    if m = 0 then sign ++ "0.0"
    else
      let (d, k) := shortest m e
      sign ++ digitsText layout (significant d) (digitCount d + k - 1)

end ClientGen.Double
