import ClientGen.Text.Hex
import ClientGen.Text.Pieces

/-!
# Grids of characters

Where one byte is not enough for all characters, a first one chooses a row and a second one a cell
in it. A grid is written as a text with a row in each line ([gridOf]); a point in it is a cell
without a character.
-/

namespace ClientGen.Text

/-- Rows of characters. Cells that are left out at the end of a row are without a character. -/
abbrev Grid := Array (Array Char)

/-- The grid of a text. The blanks at the start of a line do not count. -/
def gridOf (table : String) : Grid :=
  ((pieces '\n' table.toList).map fun line => (line.dropWhile (· = ' ')).toArray).toArray

/-- The character in a cell, where rows and cells count from zero. -/
def Grid.char? (g : Grid) (row cell : Nat) : Option Char :=
  (g[row]?.bind (·[cell]?)).filter (· ≠ '.')

/-- The character of two bytes, of which 21 in hexadecimal notation is the first in either place. -/
def Grid.ofBytes? (g : Grid) (first second : Nat) : Option Char :=
  if first < 0x21 || second < 0x21 then none else g.char? (first - 0x21) (second - 0x21)

/-- The character at a place, if one of the runs of a table holds it. A run is its first and its
last place, or its only one, and the code point at the first. -/
def charInRuns? (runs : List (List Nat)) (place : Nat) : Option Char :=
  runs.findSome? fun
    | [only, code] => if place = only then some (Char.ofNat code) else none
    | [first, last, code] =>
      if first ≤ place && place ≤ last then some (Char.ofNat (code + (place - first))) else none
    | _ => none

/-- The characters of a run of code points that are not among the given ones, in their order. -/
def charsBeside (given : List Char) (first size : Nat) : Array Char :=
  let taken := given.foldl (fun (marks : Array Bool) c =>
    if c.toNat < first then marks else marks.setIfInBounds (c.toNat - first) true)
    (Array.replicate size false)
  ((List.range size).filter fun i =>
    (first + i).isValidChar && !taken.getD i true).toArray.map fun i => Char.ofNat (first + i)

end ClientGen.Text
