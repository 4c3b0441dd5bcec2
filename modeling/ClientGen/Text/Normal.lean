import ClientGen.Text.CompositionTable

/-!
# The composed form of a text

A character with marks can be written as one code point or as several. In the composed form
([composed]) everything is taken apart first, marks that may change places are put in the order of
their classes, and then every character takes in the marks behind it that it can ([composeFrom]).
Syllables of Hangul are taken apart and composed by calculation.
-/

namespace ClientGen.Text

/-! ## Syllables -/

/-- The first syllable. -/
def firstSyllable : Nat := 0xAC00

/-- The parts of a syllable. -/
def syllableParts (n : Nat) : List Nat :=
  let i := n - firstSyllable
  [0x1100 + i / 588, 0x1161 + i % 588 / 28] ++ if i % 28 = 0 then [] else [0x11A7 + i % 28]

/-- The syllable of two parts, of which the first may be a syllable without an end. -/
def syllable? (first second : Nat) : Option Nat :=
  if 0x1100 ≤ first && first < 0x1113 && 0x1161 ≤ second && second < 0x1176 then
    some (firstSyllable + ((first - 0x1100) * 21 + (second - 0x1161)) * 28)
  else if firstSyllable ≤ first && first < 0xD7A4 && (first - firstSyllable) % 28 = 0 &&
      0x11A8 ≤ second && second < 0x11C3 then
    some (first + (second - 0x11A7))
  else none

/-! ## Taking apart -/

/-- What a code point stands for; nothing if it stands for itself. -/
def parts (n : Nat) : List Nat :=
  if firstSyllable ≤ n && n < 0xD7A4 then syllableParts n
  else
    let is := fun row : List Nat => row.head? = some n
    (((composites.find? is).or (expansions.find? is)).map (·.drop 1)).getD []

/-- A code point without anything composed in it. A character is composed of others four times at
most. -/
def takenApart : Nat → Nat → List Nat
  | 0, n => [n]
  | depth + 1, n => if (parts n).isEmpty then [n] else (parts n).flatMap (takenApart depth)

/-- The class of a mark; zero if the code point is none that may change places. -/
def markClass (n : Nat) : Nat :=
  ((markClasses.find? fun (_, spans) => Span.includes spans n).map (·.1)).getD 0

/-- A mark in front of marks that are in order. -/
def settle (n : Nat) : List Nat → List Nat
  | [] => [n]
  | m :: rest =>
    if markClass m ≠ 0 && markClass m < markClass n then m :: settle n rest else n :: m :: rest

/-- The code points of a text with nothing composed, and with the marks in order. -/
def decomposed (ns : List Nat) : List Nat :=
  (ns.flatMap (takenApart 4)).foldr settle []

/-! ## Composing -/

/-- The character that two others compose. -/
def pair? (first second : Nat) : Option Nat :=
  (syllable? first second).or ((composites.find? (·.drop 1 == [first, second])).bind List.head?)

/-- A character, the last ones first the `marks` behind it that it does not take in, and what
follows. A mark is out of reach behind one of the same class or of a greater one. -/
def composeFrom (first : Nat) (marks : List Nat) : List Nat → List Nat
  | [] => first :: marks.reverse
  | n :: rest =>
    let near := marks.head?.all (markClass · < markClass n)
    match (if near then pair? first n else none) with
    | some whole => composeFrom whole marks rest
    | none =>
      if markClass n = 0 then first :: marks.reverse ++ composeFrom n [] rest
      else composeFrom first (n :: marks) rest

/-- The composed form of a text. -/
def composed (ns : List Nat) : List Nat :=
  match decomposed ns with
  | [] => []
  | n :: rest => composeFrom n [] rest

end ClientGen.Text
