import ClientGen.Http.Label.ContextTable
import ClientGen.Text.Normal

/-!
# Characters that need a neighbour

Some signs may stand in a label only beside certain letters: the two joiners ([isJoined]), and the
signs and digits of [isPlaced].
-/

namespace ClientGen.Http

open Text

/-- The joiners: code points without a form of their own, of which the first keeps letters apart. -/
def joiners : List Nat := [0x200C, 0x200D]

/-- Whether letters meet here: the next one across marks is in one of the tables. -/
def meets (tables : List (List Span)) (label : List Nat) : Bool :=
  match label.dropWhile (Span.includes joiningAcross) with
  | [] => false
  | n :: _ => tables.any (Span.includes · n)

/-- Whether a joiner may stand between what is in front of it, the nearest first, and what is
behind: a sign that takes the vowel from a letter is in front of it, or it keeps apart two letters
that would join. -/
def isJoined (n : Nat) (before behind : List Nat) : Bool :=
  before.head?.any (markClass · = 9) ||
    (n = 0x200C && meets [joiningBehind, joiningBoth] before &&
      meets [joiningFront, joiningBoth] behind)

/-- The signs and digits that need a neighbour. -/
def placedTable : List Span := spansOf "B7 375 5F3-5F4 660-669 6F0-6F9 30FB"

/-- Whether one of the signs and digits may stand where it is. A dot belongs between two letters l,
a sign beside a letter of its script, and the digits of two kinds do not mix. -/
def isPlaced (n : Nat) (label before behind : List Nat) : Bool :=
  if n = 0xB7 then before.head? = some 'l'.toNat && behind.head? = some 'l'.toNat
  else if n = 0x375 then behind.head?.any (Span.includes greekTable)
  else if n = 0x5F3 || n = 0x5F4 then before.head?.any (Span.includes hebrewTable)
  else if n = 0x30FB then label.any fun m => m ≠ n && Span.includes kanaTable m
  else if n < 0x6F0 then !label.any fun m => 0x6F0 ≤ m && m ≤ 0x6F9
  else !label.any fun m => 0x660 ≤ m && m ≤ 0x669

end ClientGen.Http
