/-!
# Hexadecimal notation

Numbers to the base sixteen, in digits of either case ([hexValue?]), and lists of them that stand
for tables ([rowsOf]).
-/

namespace ClientGen.Text

/-- The value of a hexadecimal digit. -/
def hexDigit? (c : Char) : Option Nat :=
  if c.isDigit then some (c.toNat - '0'.toNat)
  else if 'a' ≤ c && c ≤ 'f' then some (c.toNat - 'a'.toNat + 10)
  else if 'A' ≤ c && c ≤ 'F' then some (c.toNat - 'A'.toNat + 10)
  else none

/-- The number that hexadecimal digits stand for. -/
def hexValue? (cs : List Char) : Option Nat :=
  cs.foldlM (fun n c => (hexDigit? c).map (16 * n + ·)) 0

/-- The numbers of a row: runs of digits with other signs between them. -/
def rowOf (row : List Char) : List Nat :=
  (row.splitBy fun a b => (hexDigit? a).isSome == (hexDigit? b).isSome).filterMap hexValue?

/-- Whether a character stands between two rows. -/
def isRowGap (c : Char) : Bool := c = ' ' || c = '\n'

/-- The rows of a table, which stand between blanks and ends of lines. -/
def rowsOf (table : String) : List (List Nat) :=
  ((table.toList.splitBy fun a b => isRowGap a == isRowGap b).map rowOf).filter (!·.isEmpty)

end ClientGen.Text
