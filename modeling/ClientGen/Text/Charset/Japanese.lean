import ClientGen.Text.Charset.Basic
import ClientGen.Text.Grid.Japanese

/-!
# Japanese charsets

The sets of Japanese characters, and the two ways to write them in bytes: with the eighth bit set in
each byte, where a first byte may choose another set, or in a first byte that leaves room for small
letters of Latin and Katakana ([unfoldPair]), where it chooses two rows.
-/

namespace ClientGen.Text

/-! ## Sets of characters -/

/-- A character of JIS X 0208, of two bytes without the eighth bit. -/
def jis0208? (a b : Nat) : Option (List Char) := (jis0208.ofBytes? a b).map ([·])

/-- A character of JIS X 0212. -/
def jis0212? (a b : Nat) : Option (List Char) := (jis0212.ofBytes? a b).map ([·])

/-- The editions of JIS X 0213. -/
inductive JisEdition where
  | first
  | second
  deriving DecidableEq, Repr

/-- The cells that the second edition adds. -/
def secondEditionCells : List (List Nat) := rowsOf
  "2E21 2F7E 4F54 4F7E 7427 7E7A 7E7B 7E7C 7E7D 7E7E"

/-- Characters of the first grid of JIS X 0213, in which JIS X 0208 is contained. In the first
edition the cells of the second one are known to be empty. -/
def jis0213? (edition : JisEdition) (a b : Nat) : Option (List Char) :=
  let cell := 256 * a + b
  if edition = .first && secondEditionCells.contains [cell] then some [replacement]
  else
    let marked := (jisMarks.find? (·.head? = some cell)).map fun row =>
      (row.drop 1).map Char.ofNat
    (jis0208? a b).or (((jis0213.ofBytes? a b).map ([·])).or marked)

/-- A character of the second grid of JIS X 0213. -/
def jis0213Second? (edition : JisEdition) (a b : Nat) : Option (List Char) :=
  if edition = .first && a = 0x7D && b = 0x3B then some ['\u9b1d']
  else (jis0213Second.ofBytes? a b).map ([·])

/-- A Latin letter of JIS X 0201, which is one of ASCII but for two signs. -/
def jisLatin? (byte : Nat) : Option Char :=
  if byte = 0x5C then some '¥' else if byte = 0x7E then some '‾' else ascii? byte

/-- A letter of Katakana of JIS X 0201, of a byte with the eighth bit. -/
def jisKana? (byte : Nat) : Option Char :=
  if 0xA1 ≤ byte && byte ≤ 0xDF then some (Char.ofNat (0xFEC0 + byte)) else none

/-! ## Bytes with the eighth bit -/

/-- What is taken where both bytes of the characters of a set have the eighth bit, Katakana stands
behind one byte and characters of another set behind another one. -/
def takeHigh (first second : Nat → Nat → Option (List Char)) (_ : Unit) :
    List Nat → Taken Unit
  | [] => .short
  | a :: rest =>
    if a < 0x80 then .chars [Char.ofNat a] 1 ()
    else match a, rest with
      | _, [] => .short
      | 0x8E, b :: _ =>
        match jisKana? b with
        | some c => .chars [c] 2 ()
        | none => .nothing 1
      | 0x8F, [_] => .short
      | 0x8F, b :: c :: _ =>
        match second (b ^^^ 0x80) (c ^^^ 0x80) with
        | some cs => .chars cs 3 ()
        | none => .nothing 1
      | a, b :: _ =>
        match first (a ^^^ 0x80) (b ^^^ 0x80) with
        | some cs => .chars cs 2 ()
        | none => .nothing 1

/-- The second set of the charset with the eighth bit: that of JIS X 0213, and of JIS X 0212 what is
not in it. -/
def secondSet (edition : JisEdition) (a b : Nat) : Option (List Char) :=
  (jis0213Second? edition a b).or (jis0212? a b)

/-! ## Bytes that choose two rows -/

/-- The row, counted from zero, and the byte of the cell that two bytes choose. -/
def unfoldPair (a b : Nat) : Option (Nat × Nat) :=
  if b < 0x40 || b = 0x7F || 0xFC < b then none
  else if !(0x81 ≤ a && a ≤ 0x9F || 0xE0 ≤ a && a ≤ 0xFC) then none
  else
    let rows := 2 * (if a < 0xE0 then a - 0x81 else a - 0xC1)
    let cell := if b < 0x80 then b - 0x40 else b - 0x41
    if cell < 94 then some (rows, cell + 0x21) else some (rows + 1, cell - 94 + 0x21)

/-- A character of JIS X 0208. -/
def folded0208? (a b : Nat) : Option (List Char) :=
  (unfoldPair a b).bind fun (row, cell) => jis0208? (row + 0x21) cell

/-- The row of the second grid of JIS X 0213 that stands behind the last row of the first one. -/
def secondGridRow (row : Nat) : Nat :=
  if 0x67 ≤ row then row + 7
  else if 0x63 ≤ row || row = 0x5F then row - 0x37
  else row - 0x3D

/-- Characters of JIS X 0213. Two signs are those of ASCII. -/
def folded0213? (edition : JisEdition) (a b : Nat) : Option (List Char) :=
  if a = 0x81 && b = 0x5F then some ['\\']
  else if a = 0x81 && b = 0xB0 then some ['~']
  else (unfoldPair a b).bind fun (row, cell) =>
    if row < 94 then jis0213? edition (row + 0x21) cell
    else jis0213Second? edition (secondGridRow row) cell

/-- The signs for which vendors have others. -/
def vendorSigns : List (List Nat) := rowsOf
  "8160=FF5E 8161=2225 817C=FF0D 8191=FFE0 8192=FFE1 81CA=FFE2"

/-- A character of JIS X 0208 as vendors extend it. Rows behind it are free for any use. -/
def foldedVendor? (a b : Nat) : Option (List Char) := do
  let (row, cell) ← unfoldPair a b
  match vendorSigns.find? (·.head? = some (256 * a + b)) with
  | some sign => return (sign.drop 1).map Char.ofNat
  | none =>
    if 0xF0 ≤ a && a ≤ 0xF9 then
      return [Char.ofNat (0xE000 + 94 * (row - 94) + (cell - 0x21))]
    let added := (vendorRows.idxOf? row).bind fun i => jisVendor.char? i (cell - 0x21)
    (added.map ([·])).or (jis0208? (row + 0x21) cell)

/-- A byte that is a character of its own to vendors: four have no other use. -/
def vendorByte? (byte : Nat) : Option Char :=
  if byte ≤ 0x80 then some (Char.ofNat byte)
  else if byte = 0xA0 then some '\uf8f0'
  else if 0xFD ≤ byte then some (Char.ofNat (0xF8F1 + (byte - 0xFD)))
  else jisKana? byte

/-! ## Charsets -/

/-- The Japanese charsets of one, two or three bytes. -/
def japaneseCharsets : List Charset := [
  ⟨["euc_jp", "eucjp", "u_jis", "ujis"], decodeBy (takeHigh jis0208? jis0212?) ()⟩,
  ⟨["euc_jis_2004", "euc_jis2004", "eucjis2004", "jisx0213"],
    decodeBy (takeHigh (jis0213? .second) (secondSet .second)) ()⟩,
  ⟨["euc_jisx0213", "eucjisx0213"],
    decodeBy (takeHigh (jis0213? .first) (secondSet .first)) ()⟩,
  ⟨["shift_jis", "csshiftjis", "s_jis", "shiftjis", "sjis", "x_mac_japanese"],
    decodeBy (takePair (fun b => (ascii? b).or (jisKana? b)) folded0208?) ()⟩,
  ⟨["shift_jis_2004", "s_jis_2004", "shiftjis2004", "sjis_2004"],
    decodeBy (takePair (fun b => (jisLatin? b).or (jisKana? b)) (folded0213? .second)) ()⟩,
  ⟨["shift_jisx0213", "s_jisx0213", "shiftjisx0213", "sjisx0213"],
    decodeBy (takePair (fun b => (jisLatin? b).or (jisKana? b)) (folded0213? .first)) ()⟩,
  ⟨["cp932", "932", "ms932", "ms_kanji", "mskanji"],
    decodeBy (takePair vendorByte? foldedVendor?) ()⟩]

end ClientGen.Text
