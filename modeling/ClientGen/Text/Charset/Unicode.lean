import ClientGen.Text.Charset.Basic
import ClientGen.Text.Utf8

/-!
# Charsets of units

The charsets in which a code point is written in one or more units of one, two or four bytes
([decodeLossy], [decodePairs], [decodeQuads]). The order of the bytes of a unit belongs to the
charset, or a mark at the start tells it ([markedOrder?]).
-/

namespace ClientGen.Text

/-- The order of the bytes of a number. -/
inductive ByteOrder where
  | little
  | big
  deriving DecidableEq, Repr

/-! ## Units of one byte -/

/-- The characters of bytes in UTF-8, in the middle of a character or not. A character that breaks
off is replaced as a whole. -/
def decodeLossy : Option Owed → List UInt8 → List Char
  | none, [] => []
  | some _, [] => [replacement]
  | pending, byte :: rest =>
    let b := byte.toNat
    match pending.filter fun o => o.low ≤ b && b ≤ o.high with
    | some o =>
      let bits := 0x40 * o.bits + (b - 0x80)
      if o.more = 0 then Char.ofNat bits :: decodeLossy none rest
      else decodeLossy (some ⟨o.lead, bits, o.taken + 1, o.more - 1, 0x80, 0xBF⟩) rest
    | none =>
      let broken := if pending.isSome then [replacement] else []
      broken ++
        if b < 0x80 then Char.ofNat b :: decodeLossy none rest
        else match Owed.ofLead? b with
          | none => replacement :: decodeLossy none rest
          | some o => decodeLossy (some o) rest

/-! ## Units of two or four bytes -/

/-- The number that bytes stand for. -/
def ByteOrder.number (order : ByteOrder) (bytes : List UInt8) : Nat :=
  let ordered := match order with
    | .little => bytes.reverse
    | .big => bytes
  ordered.foldl (fun n b => 256 * n + b.toNat) 0

/-- The characters of units of two bytes, some of them behind the first half of a pair. A half
without the other one is replaced, and so is what is too short at the end. -/
def decodePairs (order : ByteOrder) : Option Nat → List UInt8 → List Char
  | half, a :: b :: rest =>
    let unit := order.number [a, b]
    let isFirst := 0xD800 ≤ unit && unit < 0xDC00
    let isSecond := 0xDC00 ≤ unit && unit < 0xE000
    match half.filter fun _ => isSecond with
    | some h => Char.ofNat (0x10000 + 0x400 * (h - 0xD800) + (unit - 0xDC00)) ::
        decodePairs order none rest
    | none =>
      let broken := if half.isSome then [replacement] else []
      broken ++
        if isFirst then decodePairs order (some unit) rest
        else (if isSecond then replacement else Char.ofNat unit) :: decodePairs order none rest
  | none, [] => []
  | _, _ => [replacement]

/-- The characters of units of four bytes. -/
def decodeQuads (order : ByteOrder) : List UInt8 → List Char
  | a :: b :: c :: d :: rest =>
    let n := order.number [a, b, c, d]
    (if n.isValidChar then Char.ofNat n else replacement) :: decodeQuads order rest
  | [] => []
  | _ => [replacement]

/-- The order that is told by the mark at the start of some bytes, and the bytes behind it. -/
def markedOrder? (unitBits : Nat) (bytes : List UInt8) :
    Except CharsetFault (ByteOrder × List UInt8) :=
  let size := unitBits / 8
  let start := bytes.take size
  if bytes.length < size || ByteOrder.little.number start = 0xFEFF then
    .ok (.little, bytes.drop (if bytes.length < size then 0 else size))
  else if ByteOrder.big.number start = 0xFEFF then .ok (.big, bytes.drop size)
  else .error (.noMark unitBits)

/-! ## Charsets -/

/-- The characters of bytes in UTF-8 behind a mark. A mark that is not complete is none either. -/
def decodeMarked (bytes : List UInt8) : List Char :=
  let mark : List UInt8 := [0xEF, 0xBB, 0xBF]
  if mark.isPrefixOf bytes then decodeLossy none (bytes.drop 3)
  else if bytes.isPrefixOf mark then []
  else decodeLossy none bytes

/-- UTF-8. -/
def utf8 : Charset :=
  ⟨["utf_8", "cp65001", "u8", "utf", "utf8", "utf8_ucs2", "utf8_ucs4"],
    fun bytes => .ok (decodeLossy none bytes)⟩

/-- The charsets of units. -/
def unitCharsets : List Charset := [
  utf8,
  ⟨["utf_8_sig"], (.ok <| decodeMarked ·)⟩,
  ⟨["utf_16", "u16", "utf16"], fun bytes =>
    (markedOrder? 16 bytes).map fun (order, rest) => decodePairs order none rest⟩,
  ⟨["utf_16_le", "unicodelittleunmarked", "utf_16le"], (.ok <| decodePairs .little none ·)⟩,
  ⟨["utf_16_be", "unicodebigunmarked", "utf_16be"], (.ok <| decodePairs .big none ·)⟩,
  ⟨["utf_32", "u32", "utf32"], fun bytes =>
    (markedOrder? 32 bytes).map fun (order, rest) => decodeQuads order rest⟩,
  ⟨["utf_32_le", "utf_32le"], (.ok <| decodeQuads .little ·)⟩,
  ⟨["utf_32_be", "utf_32be"], (.ok <| decodeQuads .big ·)⟩]

end ClientGen.Text
