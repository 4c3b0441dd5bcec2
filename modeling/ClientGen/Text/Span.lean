import ClientGen.Text.Hex

/-!
# Tables of code points

Properties of characters are given as lists of spans: runs of code points with a fixed distance.
`Span.covers` asks whether a character is in a table, and `Shift.find?` looks up what a character
turns into. The tables are lists, so that a look-up is a plain search. A long one is written in
hexadecimal notation ([spansOf]).
-/

namespace ClientGen.Text

/-- The code points `first`, `first + step`, ... up to `last`. -/
structure Span where
  first : Nat
  last : Nat
  step : Nat

/-- Whether a code point is one of the span. -/
def Span.holds (s : Span) (n : Nat) : Bool :=
  s.first ≤ n && n ≤ s.last && (n - s.first) % s.step == 0

/-- Whether a code point is in one of the spans. -/
def Span.includes (table : List Span) (n : Nat) : Bool :=
  table.any (·.holds n)

/-- Whether a character is in one of the spans. -/
def Span.covers (table : List Span) (c : Char) : Bool := Span.includes table c.toNat

/-- The span of a row: its one code point, or the first and the last and perhaps their distance. -/
def Span.ofRow? : List Nat → Option Span
  | [only] => some ⟨only, only, 1⟩
  | [first, last] => some ⟨first, last, 1⟩
  | [first, last, step] => some ⟨first, last, step⟩
  | _ => none

/-- The spans of a table in hexadecimal notation. -/
def spansOf (table : String) : List Span := (rowsOf table).filterMap Span.ofRow?

/-- The code points of a span, each of which turns into the one at a fixed distance. -/
structure Shift where
  first : Nat
  last : Nat
  step : Nat
  distance : Int

/-- What a character turns into, if a shift holds it. -/
def Shift.find? (table : List Shift) (c : Char) : Option Char :=
  (table.find? fun s => (Span.mk s.first s.last s.step).holds c.toNat).map fun s =>
    Char.ofNat ((c.toNat : Int) + s.distance).toNat

end ClientGen.Text
