import ClientGen.Text.Charset.Basic
import ClientGen.Text.Grid.HongKong
import ClientGen.Text.Grid.Taiwanese

/-!
# Charsets of traditional Chinese

The characters of Big5, which a vendor extends with some signs, and to which thousands of characters
are added for Hong Kong.
-/

namespace ClientGen.Text

/-- The character in a row of 157 cells, which takes two rows of a grid. -/
def Grid.ofLongRow? (g : Grid) (row b : Nat) : Option Char :=
  if 0x40 ≤ b && b < 0x7F then g.char? (2 * row) (b - 0x40)
  else if 0xA1 ≤ b then g.char? (2 * row + 1) (b - 0xA1)
  else none

/-- A character of Big5. -/
def big5? (a b : Nat) : Option (List Char) :=
  if a < 0xA1 then none else (big5.ofLongRow? (a - 0xA1) b).map ([·])

/-- The signs of a vendor, by their bytes. -/
def vendorBig5Signs : List (List Nat) := rowsOf
  "A145=2027 A14E=FE51 A1C2=AF A1E3=FF5E A1F2=2295 A1F3=2299 A241=2215 A242=FE68 A244=FFE5
    A246-A247=FFE0 A3E1=20AC F9D6=7881 F9D7=92B9 F9D8=88CF F9D9=58BB F9DA=6052 F9DB=7CA7 F9DC=5AFA
    F9DD=2554 F9DE=2566 F9DF=2557 F9E0=2560 F9E1=256C F9E2=2563 F9E3=255A F9E4=2569 F9E5=255D
    F9E6=2552 F9E7=2564 F9E8=2555 F9E9=255E F9EA=256A F9EB=2561 F9EC=2558 F9ED=2567 F9EE=255B
    F9EF=2553 F9F0=2565 F9F1=2556 F9F2=255F F9F3=256B F9F4=2562 F9F5=2559 F9F6=2568 F9F7=255C
    F9F8=2551 F9F9=2550 F9FA-F9FB=256D F9FC=2570 F9FD=256F F9FE=2593"

/-- A character of Big5 as a vendor extends it. -/
def vendorBig5? (a b : Nat) : Option (List Char) :=
  ((charInRuns? vendorBig5Signs (256 * a + b)).map ([·])).or (big5? a b)

/-- The row of a first byte among the characters added for Hong Kong. -/
def hongKongRow? (a : Nat) : Option Nat :=
  if 0x87 ≤ a && a ≤ 0xA0 then some (a - 0x87)
  else if 0xC6 ≤ a && a ≤ 0xC8 then some (a - 0xC6 + 26)
  else if 0xF9 ≤ a && a ≤ 0xFE then some (a - 0xF9 + 29)
  else none

/-- The letters with marks that are no characters of their own. -/
def hongKongMarks : List (List Nat) := rowsOf "8862=CA+304 8864=CA+30C 88A3=EA+304 88A5=EA+30C"

/-- A character of Big5 with those added for Hong Kong, for which three rows are given up. -/
def hongKong? (a b : Nat) : Option (List Char) :=
  let kept := a < 0xC6 || 0xC8 < a || (a = 0xC6 && b < 0xA1)
  let added := (hongKongRow? a).bind fun row => hongKong.ofLongRow? row b
  let marked := (hongKongMarks.find? (·.head? = some (256 * a + b))).map fun row =>
    (row.drop 1).map Char.ofNat
  ((if kept then big5? a b else none).or (added.map ([·]))).or marked

/-- The charsets of traditional Chinese. -/
def taiwaneseCharsets : List Charset := [
  ⟨["big5", "big5_tw", "csbig5", "x_mac_trad_chinese"], decodeBy (takePair ascii? big5?) ()⟩,
  ⟨["cp950", "950", "ms950"], decodeBy (takePair ascii? vendorBig5?) ()⟩,
  ⟨["big5hkscs", "big5_hkscs", "hkscs"], decodeBy (takePair ascii? hongKong?) ()⟩]

end ClientGen.Text
