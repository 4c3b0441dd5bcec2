import ClientGen.Text.Charset.Basic
import ClientGen.Text.Grid.Korean

/-!
# Korean charsets

The characters of KS X 1001 with the eighth bit set in both bytes, and the two ways to write all
syllables of Hangul: those that have no place are put in order beside the others ([moreSyllables]),
or the bytes name the letters of a syllable ([syllableOfLetters?]).
-/

namespace ClientGen.Text

/-! ## The set of characters -/

/-- A character of KS X 1001, of two bytes without the eighth bit. -/
def ks1001? (a b : Nat) : Option (List Char) := (ks1001.ofBytes? a b).map ([·])

/-- A character of KS X 1001, of two bytes with the eighth bit. -/
def highKs1001? (a b : Nat) : Option (List Char) := ks1001? (a ^^^ 0x80) (b ^^^ 0x80)

/-! ## Syllables of eight bytes -/

/-- The numbers of the letters that begin a syllable, in the order of the letters that stand alone;
with zeros for letters that begin none. -/
def beginnings : List Nat :=
  [1, 2, 0, 3, 0, 0, 4, 5, 6, 0, 0, 0, 0, 0, 0, 0, 7, 8, 9, 0, 10, 11, 12, 13, 14, 15, 16, 17, 18,
    19]

/-- The numbers of the letters that end a syllable. -/
def endings : List Nat :=
  [1, 2, 3, 4, 5, 6, 7, 0, 8, 9, 10, 11, 12, 13, 14, 15, 16, 17, 0, 18, 19, 20, 21, 22, 0, 23, 24,
    25, 26, 27]

/-- The syllable of three letters, of which the last may be left out. They are told by their bytes
among the letters that stand alone. -/
def spelledSyllable? (first middle last : Nat) : Option Char := do
  let first ← (if first < 0xA1 then none else beginnings[first - 0xA1]?).filter (· ≠ 0)
  let middle ← if 0xBF ≤ middle && middle ≤ 0xD3 then some (middle - 0xBF) else none
  let last ← if last = 0xD4 then some 0 else
    (if last < 0xA1 then none else endings[last - 0xA1]?).filter (· ≠ 0)
  return Char.ofNat (0xAC00 + (first - 1) * 588 + middle * 28 + last)

/-- What is taken where both bytes of a character have the eighth bit. Behind the filler a syllable
is spelled in three letters. -/
def takeKorean (_ : Unit) : List Nat → Taken Unit
  | 0xA4 :: 0xD4 :: rest =>
    match rest with
    | a :: first :: b :: middle :: c :: last :: _ =>
      match if a = 0xA4 && b = 0xA4 && c = 0xA4 then spelledSyllable? first middle last
          else none with
      | some syllable => .chars [syllable] 8 ()
      | none => .nothing 1
    | _ => .short
  | bytes => takePair ascii? highKs1001? () bytes

/-! ## Syllables beside the others -/

/-- The syllables that are not in KS X 1001, in their order. -/
def moreSyllables : Array Char :=
  charsBeside (ks1001.toList.flatMap Array.toList) 0xAC00 11172

/-- The place of a second byte among small and capital letters and bytes with the eighth bit. -/
def letterPlace? (b : Nat) : Option Nat :=
  if 0x41 ≤ b && b ≤ 0x5A then some (b - 0x41)
  else if 0x61 ≤ b && b ≤ 0x7A then some (b - 0x61 + 26)
  else if 0x81 ≤ b && b ≤ 0xFE then some (b - 0x81 + 52)
  else none

/-- A character of KS X 1001, or one of the syllables that are not in it. The latter have 178 places
for a first byte in front of all others, and 84 behind one of theirs. -/
def extendedKs1001? (a b : Nat) : Option (List Char) :=
  (highKs1001? a b).or do
    let place ← letterPlace? b
    let i ←
      if 0x81 ≤ a && a ≤ 0xA0 then some (178 * (a - 0x81) + place)
      else if 0xA1 ≤ a && a ≤ 0xC6 && place < 84 then some (178 * 32 + 84 * (a - 0xA1) + place)
      else none
    (moreSyllables[i]?).map ([·])

/-! ## Syllables of letters -/

/-- The letters that begin a syllable, by their code points among letters that stand alone. -/
def beginningLetters : List Nat :=
  [0x31, 0x32, 0x34, 0x37, 0x38, 0x39, 0x41, 0x42, 0x43, 0x45, 0x46, 0x47, 0x48, 0x49, 0x4A, 0x4B,
    0x4C, 0x4D, 0x4E]

/-- The letters that end a syllable. -/
def endingLetters : List Nat :=
  [0x31, 0x32, 0x33, 0x34, 0x35, 0x36, 0x37, 0x39, 0x3A, 0x3B, 0x3C, 0x3D, 0x3E, 0x3F, 0x40, 0x41,
    0x42, 0x44, 0x45, 0x46, 0x47, 0x48, 0x4A, 0x4B, 0x4C, 0x4D, 0x4E]

/-- The number of a vowel, where eight of the numbers of five bits are of none; zero if there is
no vowel. -/
def vowel? (bits : Nat) : Option Nat :=
  if bits = 2 then some 0
  else if 3 ≤ bits && bits ≤ 7 then some (bits - 2)
  else if 10 ≤ bits && bits ≤ 15 then some (bits - 4)
  else if 18 ≤ bits && bits ≤ 23 then some (bits - 6)
  else if 26 ≤ bits && bits ≤ 29 then some (bits - 8)
  else none

/-- The number of a letter at the end of a syllable; zero if there is none. -/
def ending? (bits : Nat) : Option Nat :=
  if 1 ≤ bits && bits ≤ 17 then some (bits - 1)
  else if 19 ≤ bits && bits ≤ 29 then some (bits - 2)
  else none

/-- The syllable of three letters of five bits each, or the only letter. -/
def syllableOfLetters? (a b : Nat) : Option Char := do
  let first ← (if 1 ≤ a / 4 % 32 then some (a / 4 % 32 - 1) else none).filter (· < 20)
  let middle ← vowel? (8 * a % 32 + b / 32)
  let last ← ending? (b % 32)
  let alone (letter : Option Nat) : Option Char := letter.map fun n => Char.ofNat (0x3100 + n)
  match first, middle, last with
  | 0, 0, 0 => some '\u3000'
  | 0, 0, last => alone endingLetters[last - 1]?
  | 0, middle, 0 => some (Char.ofNat (0x314F + (middle - 1)))
  | 0, _, _ => none
  | first, 0, 0 => alone beginningLetters[first - 1]?
  | _, 0, _ => none
  | first, middle, last =>
    some (Char.ofNat (0xAC00 + (first - 1) * 588 + (middle - 1) * 28 + last))

/-- A character of KS X 1001 that is no syllable, where a first byte chooses two rows. -/
def folded1001? (a b : Nat) : Option (List Char) :=
  if a < 0xD9 || a = 0xDF || 0xF9 < a || b < 0x31 || (0x80 ≤ b && b < 0x91) || b % 128 = 0x7F ||
      (a = 0xDA && 0xA1 ≤ b && b ≤ 0xD3) then none
  else
    let rows := if a < 0xE0 then 2 * a - 2 * 0xD9 else 2 * a - 0x197
    let cell := if b < 0x91 then b - 0x31 else b - 0x43
    if cell < 94 then ks1001? (rows + 0x21) (cell + 0x21)
    else ks1001? (rows + 0x22) (cell - 94 + 0x21)

/-- A syllable, or another character. -/
def lettersOr1001? (a b : Nat) : Option (List Char) :=
  if a < 0xD8 then (syllableOfLetters? a b).map ([·]) else folded1001? a b

/-! ## Charsets -/

/-- The Korean charsets of one or two bytes. -/
def koreanCharsets : List Charset := [
  ⟨["euc_kr", "euckr", "korean", "ks_c_5601", "ks_c_5601_1987", "ks_x_1001", "ksc5601", "ksx1001",
    "x_mac_korean"], decodeBy takeKorean ()⟩,
  ⟨["cp949", "949", "ms949", "uhc"], decodeBy (takePair ascii? extendedKs1001?) ()⟩,
  ⟨["johab", "cp1361", "ms1361"], decodeBy (takePair ascii? lettersOr1001?) ()⟩]

end ClientGen.Text
