import ClientGen.Text.Charset.Chinese
import ClientGen.Text.Charset.Japanese
import ClientGen.Text.Charset.Korean

/-!
# Charsets that switch between sets

Bytes without the eighth bit, in which escape sequences say what set of characters the next ones
belong to. A sequence names a set by its last byte and puts it in one of three places; the first one
is in use, or the second one after a shift, and a single character may come from the third one. A
charset lists the sets that may be put anywhere ([Switching]).
-/

namespace ClientGen.Text

/-! ## Sets -/

/-- A set of characters that can be switched to. -/
structure CodedSet where
  /-- The last byte of the sequences that name it. -/
  mark : Char
  /-- Whether its characters have two bytes, which the sequences say. -/
  isDouble : Bool
  char? : Nat → Nat → Option (List Char)

/-- A set of single bytes. -/
def CodedSet.single (mark : Char) (char? : Nat → Option Char) : CodedSet :=
  ⟨mark, false, fun a _ => (char? a).map ([·])⟩

/-- ASCII, which is everywhere. -/
def asciiSet : CodedSet := .single 'B' ascii?

/-- A charset that switches. -/
structure Switching where
  sets : List CodedSet
  /-- Whether two control characters shift to the second place and back. -/
  shifts : Bool
  /-- Whether there is a third place. -/
  hasThird : Bool
  /-- Whether a sequence may begin with the sign of a newer edition. -/
  hasEditions : Bool

/-- The set of a mark. -/
def Switching.set? (s : Switching) (isDouble : Bool) (mark : Nat) : Option CodedSet :=
  (asciiSet :: s.sets).find? fun set => set.isDouble = isDouble && set.mark.toNat = mark

/-- The sets in their places. -/
structure Places where
  first : CodedSet
  second : CodedSet
  third : CodedSet
  isShifted : Bool
  /-- Whether an unknown sequence is passed on up to its last byte. -/
  passing : Bool

/-- What holds at the start. -/
def Places.start : Places := ⟨asciiSet, asciiSet, asciiSet, false, false⟩

/-! ## Sequences -/

/-- Whether a byte ends a sequence. -/
def endsSequence (byte : Nat) : Bool := ('A'.toNat ≤ byte && byte ≤ 'Z'.toNat) || byte = '@'.toNat

/-- The greatest length of a sequence. -/
def longestSequence : Nat := 16

/-- The length of the sequence at the start of bytes, of which `i` are known; none if it goes on
behind them. It is zero if no byte ends it. -/
def sequenceLength (s : Switching) (bytes : List Nat) : Nat → Nat → Option Nat
  | 0, _ => some 0
  | fuel + 1, i =>
    if longestSequence ≤ i then some 0
    else match bytes[i]? with
      | none => none
      | some byte =>
        if endsSequence byte then some (i + 1)
        else if s.hasEditions && byte = '&'.toNat && bytes[i + 1]? = some '@'.toNat then
          sequenceLength s bytes fuel (i + 3)
        else sequenceLength s bytes fuel (i + 1)

/-- The places behind a sequence; none if it says nothing. -/
def Switching.place? (s : Switching) (places : Places) (sequence : List Nat) : Option Places :=
  let put (isDouble : Bool) (sign : Char) (mark : Nat) : Option Places := do
    let set ← s.set? isDouble mark
    match sign with
    | '(' => some { places with first := set }
    | ')' => some { places with second := set }
    | '.' => if s.hasThird && !isDouble then some { places with third := set } else none
    | _ => none
  match (sequence.drop 1).map Char.ofNat with
  | ['$', mark] => put true '(' mark.toNat
  | [sign, mark] => put false sign mark.toNat
  | ['$', sign, mark] => put true sign mark.toNat
  | [_, _, '\x1b', '$', 'B'] => if s.hasEditions then put true '(' 'B'.toNat else none
  | _ => none

/-- Whether a byte begins a sequence behind the escape character. -/
def beginsSequence (byte : Nat) : Bool := ['(', ')', '$', '.', '&'].contains (Char.ofNat byte)

/-- What is taken from bytes that start with the escape character. -/
def Switching.takeSequence (s : Switching) (places : Places) (bytes : List Nat) : Taken Places :=
  match sequenceLength s bytes longestSequence 1 with
  | none => if 8 < bytes.length then .failed .longEnd else .short
  | some 0 => .nothing 1
  | some size =>
    match s.place? places (bytes.take size) with
    | some places => .chars [] size places
    | none => .nothing size

/-! ## Characters -/

/-- The Greek letters of the third place. -/
def greekLetter? (byte : Nat) : Option Char :=
  let b := byte ^^^ 0x80
  let plain := [0xA0, 0xA3, 0xA6, 0xA7, 0xA8, 0xA9, 0xAB, 0xAC, 0xAD, 0xB0, 0xB1, 0xB2, 0xB3, 0xB7,
    0xBB, 0xBD]
  if b = 0xA1 then some '‘'
  else if b = 0xA2 then some '’'
  else if b = 0xAF then some '―'
  else if b < 0xA0 || plain.contains b then some (Char.ofNat b)
  else if 0xB4 ≤ b && b ≤ 0xFE && b ≠ 0xD2 then some (Char.ofNat (0x2D0 + b))
  else none

/-- The sets of the third place: Latin letters, ASCII and Greek letters. -/
def thirdSets : List (Char × (Nat → Option Char)) := [
  ('A', fun b => (ascii? b).map fun c => Char.ofNat (c.toNat + 0x80)),
  ('B', ascii?),
  ('F', greekLetter?)]

/-- A character of the third place. -/
def Places.takeThird (places : Places) (byte : Nat) : Taken Places :=
  match thirdSets.lookup places.third.mark with
  | none => .failed .noThirdSet
  | some char? =>
    match char? byte with
    | some c => .chars [c] 3 places
    | none => .nothing 3

/-- What is taken from the start of bytes. -/
def Switching.take (s : Switching) (places : Places) : List Nat → Taken Places
  | [] => .short
  | byte :: rest =>
    let plain (places : Places) : Taken Places := .chars [Char.ofNat byte] 1 places
    if places.passing then plain { places with passing := !endsSequence byte }
    else if byte = 0x1B then
      match rest with
      | [] => .short
      | next :: third =>
        if beginsSequence next then s.takeSequence places (byte :: rest)
        else if s.hasThird && next = 'N'.toNat then
          match third with
          | [] => .short
          | b :: _ => places.takeThird b
        else plain { places with passing := true }
    else if s.shifts && (byte = 0x0E || byte = 0x0F) then
      .chars [] 1 { places with isShifted := byte = 0x0E }
    else if byte = 0x0A then plain { places with isShifted := false }
    else if byte < 0x20 then plain places
    else if 0x80 ≤ byte then .nothing 1
    else
      let set := if places.isShifted then places.second else places.first
      if !set.isDouble then
        match set.char? byte 0 with
        | some cs => .chars cs 1 places
        | none => .nothing 1
      else match rest with
        | [] => .short
        | b :: _ =>
          match set.char? byte b with
          | some cs => .chars cs 2 places
          | none => .nothing 2

/-! ## Charsets -/

/-- The sets of the Japanese charsets. -/
def jisSets : List CodedSet :=
  [⟨'B', true, jis0208?⟩, .single 'J' jisLatin?, ⟨'@', true, jis0208?⟩]

/-- The characters of JIS X 0212. -/
def jisSupplementSet : CodedSet := ⟨'D', true, jis0212?⟩

/-- A Japanese charset. -/
def jisSwitching (sets : List CodedSet) (hasThird : Bool) : Switching :=
  ⟨sets, false, hasThird, true⟩

/-- The sets of JIS X 0213 in an edition. The tilde is that of ASCII. -/
def jis0213Sets (edition : JisEdition) (mark : Char) : List CodedSet :=
  let first? (a b : Nat) : Option (List Char) :=
    if a = 0x22 && b = 0x32 then some ['~'] else jis0213? edition a b
  [⟨'B', true, jis0208?⟩, ⟨mark, true, first?⟩, ⟨'P', true, jis0213Second? edition⟩]

/-- The charset of a name that switches. -/
def Switching.charset (names : List String) (s : Switching) : Charset :=
  ⟨names, decodeBy s.take .start⟩

/-- The charsets that switch. -/
def switchedCharsets : List Charset := [
  Switching.charset ["iso2022_jp", "csiso2022jp", "iso2022jp", "iso_2022_jp"]
    (jisSwitching jisSets false),
  Switching.charset ["iso2022_jp_1", "iso2022jp_1", "iso_2022_jp_1"]
    (jisSwitching (jisSupplementSet :: jisSets) false),
  Switching.charset ["iso2022_jp_2", "iso2022jp_2", "iso_2022_jp_2"]
    (jisSwitching ([jisSupplementSet, ⟨'C', true, ks1001?⟩, ⟨'A', true, gb2312?⟩,
      .single 'A' fun _ => none, .single 'F' fun _ => none] ++ jisSets) true),
  Switching.charset ["iso2022_jp_2004", "iso2022jp_2004", "iso_2022_jp_2004"]
    (jisSwitching (jis0213Sets .second 'Q') false),
  Switching.charset ["iso2022_jp_3", "iso2022jp_3", "iso_2022_jp_3"]
    (jisSwitching (jis0213Sets .first 'O') false),
  Switching.charset ["iso2022_jp_ext", "iso2022jp_ext", "iso_2022_jp_ext"]
    (jisSwitching ([jisSupplementSet, .single 'I' fun b => jisKana? (b ^^^ 0x80)] ++ jisSets)
      false),
  Switching.charset ["iso2022_kr", "csiso2022kr", "iso2022kr", "iso_2022_kr"]
    ⟨[⟨'C', true, ks1001?⟩], true, false, false⟩]

end ClientGen.Text
