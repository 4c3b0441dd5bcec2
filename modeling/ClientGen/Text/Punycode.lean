/-!
# Punycode

A text beyond ASCII written in ASCII: its ASCII characters first, and behind a hyphen one number for
each other character, in the order of their code points ([encode]). A number says how many steps
further the character is, where a step leads to the next place in the text and behind the last one
to the next code point. Numbers are written in letters and digits with the lowest digit first, and a
digit below a threshold ends one; the thresholds follow the size of the numbers before ([nextBias]).
-/

namespace ClientGen.Text.Punycode

/-! ## Numbers -/

/-- The threshold of the digit at a place. -/
def threshold (bias place : Nat) : Nat :=
  if 36 * (place + 1) ≤ bias then 1 else min 26 (36 * (place + 1) - bias)

/-- How often a number is divided before it is small, and what is left. -/
def shrink : Nat → Nat → Nat × Nat
  | 0, n => (0, n)
  | fuel + 1, n =>
    if n ≤ 455 then (0, n)
    else
      let (times, rest) := shrink fuel (n / 35)
      (times + 1, rest)

/-- The bias behind a number, where the text has `size` characters with the one of the number. -/
def nextBias (n : Nat) (isFirst : Bool) (size : Nat) : Nat :=
  let n := if isFirst then n / 700 else n / 2
  let n := n + n / size
  let (times, n) := shrink n n
  36 * times + 36 * n / (n + 38)

/-- The sign of a digit. -/
def digitSign (digit : Nat) : Char :=
  Char.ofNat (if digit < 26 then 'a'.toNat + digit else '0'.toNat + (digit - 26))

/-- The digit of a sign. -/
def digit? (sign : Char) : Option Nat :=
  if sign.isAlpha then some (sign.toLower.toNat - 'a'.toNat)
  else if sign.isDigit then some (sign.toNat - '0'.toNat + 26)
  else none

/-! ## Writing -/

/-- The digits of a number, from a place on. A number of as many units as `fuel` has no more. -/
def writeNumber (bias : Nat) : Nat → Nat → Nat → List Char
  | 0, _, n => [digitSign n]
  | fuel + 1, place, n =>
    let t := threshold bias place
    if n < t then [digitSign n]
    else digitSign (t + (n - t) % (36 - t)) ::
      writeNumber bias fuel (place + 1) ((n - t) / (36 - t))

/-- The state between two numbers: the steps since the last one, and the characters written. -/
structure Written where
  steps : Nat
  bias : Nat
  isFirst : Bool
  size : Nat
  digits : List Char

/-- One character of the text is passed while the characters of code point `n` are written. -/
def Written.pass (n : Nat) (w : Written) (m : Nat) : Written :=
  if m < n then { w with steps := w.steps + 1 }
  else if m = n then
    { steps := 0, bias := nextBias w.steps w.isFirst (w.size + 1), isFirst := false,
      size := w.size + 1, digits := w.digits ++ writeNumber w.bias w.steps 0 w.steps }
  else w

/-- The characters of each of the code points in turn, where `next` is the first that is still to
come. -/
def Written.passAll (text : List Nat) : Nat → List Nat → Written → Written
  | _, [], w => w
  | next, n :: ns, w =>
    let w := { w with steps := w.steps + (n - next) * (w.size + 1) }
    let w := text.foldl (Written.pass n) w
    passAll text (n + 1) ns { w with steps := w.steps + 1 }

/-- A text in ASCII. -/
def encode (text : List Nat) : List Char :=
  let plain := text.filter (· < 128)
  let others := ((text.filter (128 ≤ ·)).mergeSort (· ≤ ·)).eraseDups
  let start : Written := ⟨0, 72, true, plain.length, []⟩
  let joint := if plain.isEmpty then [] else ['-']
  plain.map Char.ofNat ++ joint ++ (start.passAll text 128 others).digits

/-! ## Reading -/

/-- The number at the start of some digits, from a place on, and what is left. -/
def readNumber? (bias : Nat) : Nat → Nat → List Char → Option (Nat × List Char)
  | _, _, [] => none
  | place, weight, sign :: rest => do
    let digit ← digit? sign
    let t := threshold bias place
    if digit < t then return (digit * weight, rest)
    let (n, rest) ← readNumber? bias (place + 1) (weight * (36 - t)) rest
    return (digit * weight + n, rest)

/-- What is done where a text breaks off: the text so far may do. -/
structure Leniency where
  ending : List Nat → Option (List Nat)
  /-- What stands for a code point behind the last one. -/
  beyond : Option Nat

/-- Nothing may be wrong. -/
def strict : Leniency := ⟨fun _ => none, none⟩

/-- What cannot be read ends the text, and a question mark stands for a code point behind the last
one. -/
def lenient : Leniency := ⟨some, some '?'.toNat⟩

/-- The text with a character for each number. The next one belongs at `place` or behind it, and its
code point is `n` or greater; there are no more numbers than digits. -/
def insertAll (l : Leniency) : Nat → Nat → Bool → Nat → Nat → List Nat → List Char →
    Option (List Nat)
  | 0, _, _, _, _, text, _ => some text
  | _, _, _, _, _, text, [] => some text
  | fuel + 1, bias, isFirst, place, n, text, digits =>
    match readNumber? bias 0 1 digits with
    | none => l.ending text
    | some (steps, rest) =>
      let places := text.length + 1
      let n := n + (place + steps) / places
      let place := (place + steps) % places
      match if n < 0x110000 then some n else l.beyond with
      | none => none
      | some n =>
        insertAll l fuel (nextBias steps isFirst places) false (place + 1) n
          (text.take place ++ n :: text.drop place) rest

/-- The text with the given ASCII characters and the characters of the numbers. -/
def decode (l : Leniency) (plain : List Nat) (digits : List Char) : Option (List Nat) :=
  insertAll l digits.length 72 true 0 128 plain digits

/-- The text in front of the last hyphen, and the digits behind it. -/
def split (cs : List Char) : List Char × List Char :=
  let digits := (cs.reverse.takeWhile (· != '-')).reverse
  (cs.take (cs.length - digits.length - 1), digits)

end ClientGen.Text.Punycode
