import ClientGen.Text.Base64
import ClientGen.Text.Charset.Basic
import ClientGen.Text.Punycode

/-!
# Charsets of escapes

Charsets in which characters beyond ASCII are spelled in ASCII: as units in base 64 between signs
([decodeShifted]), as escapes behind a backslash ([takeEscape], [takeCodeEscape]), or as numbers
behind all other characters ([decodePunycode]).
-/

namespace ClientGen.Text

/-! ## Units in base 64 -/

/-- What has been read of units: bits that are not a whole unit yet, their number, and the first
half of a pair. -/
structure Units where
  bits : Nat := 0
  count : Nat := 0
  half : Option Nat := none

/-- The six bits of a byte. -/
def sextet? (byte : Nat) : Option Nat := (ascii? byte).bind signValue?

/-- Six more bits, and the characters that are complete with them. -/
def Units.push (u : Units) (sextet : Nat) : Units × List Char :=
  let bits := 64 * u.bits + sextet
  if u.count + 6 < 16 then ({ u with bits, count := u.count + 6 }, [])
  else
    let left := u.count - 10
    let unit := bits >>> left
    let next : Units := ⟨bits % (1 <<< left), left, none⟩
    let isSecond := 0xDC00 ≤ unit && unit < 0xE000
    match u.half.filter fun _ => isSecond with
    | some half => (next, [Char.ofNat (0x10000 + 0x400 * (half - 0xD800) + (unit - 0xDC00))])
    | none =>
      let broken := if u.half.isSome then [replacement] else []
      if 0xD800 ≤ unit && unit < 0xDC00 then ({ next with half := some unit }, broken)
      else (next, broken ++ [charOf unit])

/-- Whether the bits that are left make up no unit: they are those of a sign, or not all zero. -/
def Units.isBroken (u : Units) : Bool := 6 ≤ u.count || u.bits ≠ 0

/-- The characters of bytes, among units or not. -/
def decodeShifted : Option Units → List Nat → List Char
  | none, [] => []
  | some u, [] => if u.half.isSome || u.isBroken then [replacement] else []
  | none, byte :: rest =>
    if byte ≠ '+'.toNat then (ascii? byte).getD replacement :: decodeShifted none rest
    else match rest with
      | [] => []
      | next :: after =>
        if next = '-'.toNat then '+' :: decodeShifted none after
        else match sextet? next with
          | none => replacement :: decodeShifted none after
          | some sextet => decodeShifted (some (Units.push {} sextet).1) after
  | some u, byte :: rest =>
    match sextet? byte with
    | some sextet =>
      let (u, cs) := u.push sextet
      cs ++ decodeShifted (some u) rest
    | none =>
      if u.isBroken then replacement :: decodeShifted none rest
      else
        let broken := if u.half.isSome && byte < 128 then [replacement] else []
        let sign := if byte = '-'.toNat then [] else [(ascii? byte).getD replacement]
        broken ++ sign ++ decodeShifted none rest

/-! ## Escapes -/

/-- The character of hexadecimal digits behind `start` bytes of an escape. What is no digit breaks
the escape off in front of it. -/
def takeHex (start width : Nat) (rest : List Nat) : Taken Unit :=
  let digits := ((rest.take width).map Char.ofNat).takeWhile fun c => (hexDigit? c).isSome
  if digits.length < width then
    if digits.length = rest.length then .short else .nothing (start + digits.length)
  else
    let code := (hexValue? digits).getD 0
    if code < 0x110000 then .chars [charOf code] (start + width) ()
    else .nothing (start + width)

/-- The letters behind a backslash that stand for one character. -/
def letterEscapes : List (Char × Char) := [
  ('\\', '\\'), ('\'', '\''), ('"', '"'), ('a', '\x07'), ('b', '\x08'), ('f', '\x0c'),
  ('n', '\n'), ('r', '\r'), ('t', '\t'), ('v', '\x0b')]

/-- What is taken where a backslash begins an escape: a letter, up to three octal digits, or
hexadecimal digits behind a letter. A character that is told by its name is not read, and what is no
escape stands for itself. -/
def takeEscape (_ : Unit) : List Nat → Taken Unit
  | [] => .short
  | byte :: rest =>
    if byte ≠ '\\'.toNat then .chars [Char.ofNat byte] 1 ()
    else match rest with
      | [] => .short
      | next :: rest =>
        let sign := Char.ofNat next
        let octal := ((next :: rest).take 3).takeWhile fun b => '0'.toNat ≤ b && b ≤ '7'.toNat
        if sign = '\n' then .chars [] 2 ()
        else match letterEscapes.lookup sign with
          | some c => .chars [c] 2 ()
          | none =>
            if !octal.isEmpty then
              let code := octal.foldl (fun n b => 8 * n + (b - '0'.toNat)) 0
              .chars [Char.ofNat code] (octal.length + 1) ()
            else if sign = 'x' then takeHex 2 2 rest
            else if sign = 'u' then takeHex 2 4 rest
            else if sign = 'U' then takeHex 2 8 rest
            else if sign = 'N' then
              let name := rest.takeWhile (· ≠ '\x7d'.toNat)
              if rest.head? ≠ some '\x7b'.toNat then
                if rest.isEmpty then .short else .nothing 2
              else if name.length = rest.length then .short
              else if name.length = 1 then .nothing 3
              else .nothing (name.length + 3)
            else .chars ['\\', sign] 2 ()

/-- What is taken where only escapes of code points are read. -/
def takeCodeEscape (_ : Unit) : List Nat → Taken Unit
  | [] => .short
  | byte :: rest =>
    if byte ≠ '\\'.toNat then .chars [Char.ofNat byte] 1 ()
    else match rest with
      | [] => .chars ['\\'] 1 ()
      | next :: rest =>
        let sign := Char.ofNat next
        if sign = 'u' then takeHex 2 4 rest
        else if sign = 'U' then takeHex 2 8 rest
        else .chars ['\\', sign] 2 ()

/-! ## Numbers behind the other characters -/

/-- The text of bytes in Punycode. The numbers have to be in ASCII. -/
def decodePunycode (bytes : List Nat) : Except CharsetFault (List Char) :=
  let hyphen := '-'.toNat
  let numbers := (bytes.reverse.takeWhile (· ≠ hyphen)).reverse
  let plain := bytes.take (bytes.length - numbers.length - 1)
  match numbers.findIdx? (128 ≤ ·) with
  | some place => .error (.beyondAscii (numbers[place]?.getD 0) place)
  | none =>
    let plain := plain.map fun b => ((ascii? b).getD replacement).toNat
    let text := Punycode.decode Punycode.lenient plain (numbers.map Char.ofNat)
    .ok ((text.getD []).map charOf)

/-! ## Charsets -/

/-- The charsets of escapes. -/
def escapedCharsets : List Charset := [
  ⟨["utf_7", "u7", "unicode_1_1_utf_7", "utf7"],
    fun bytes => .ok (decodeShifted none (bytes.map UInt8.toNat))⟩,
  ⟨["unicode_escape"], decodeBy takeEscape ()⟩,
  ⟨["raw_unicode_escape"], decodeBy takeCodeEscape ()⟩,
  ⟨["punycode"], fun bytes => decodePunycode (bytes.map UInt8.toNat)⟩]

end ClientGen.Text
