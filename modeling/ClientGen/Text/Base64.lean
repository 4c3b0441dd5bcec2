/-!
# Bytes in base 64

Four signs stand for three bytes, six bits each ([signValue?]). Signs of no value are passed over,
and equals signs fill up a last group that is not full ([decodeGroups]).
-/

namespace ClientGen.Text

/-- The six bits that a sign stands for. -/
def signValue? (c : Char) : Option Nat :=
  if c.isUpper then some (c.toNat - 'A'.toNat)
  else if c.isLower then some (26 + (c.toNat - 'a'.toNat))
  else if c.isDigit then some (52 + (c.toNat - '0'.toNat))
  else if c = '+' then some 62
  else if c = '/' then some 63
  else none

/-- The bytes of signs behind `taken` signs of a group, of whose bits `left` belong to the next
byte, and behind `fills` equals signs. A group ends if the signs that it lacks are filled up, and
then nothing more is read. There are no bytes if a group is not full at the end. -/
def decodeGroups (taken left fills : Nat) : List Char → Option (List UInt8)
  | [] => if taken = 0 then some [] else none
  | c :: rest =>
    if c = '=' then
      if taken < 2 then decodeGroups taken left fills rest
      else if 4 ≤ taken + fills + 1 then some []
      else decodeGroups taken left (fills + 1) rest
    else match signValue? c with
      | none => decodeGroups taken left fills rest
      | some bits => match taken with
        | 0 => decodeGroups 1 bits 0 rest
        | 1 => ((4 * left + bits / 16).toUInt8 :: ·) <$> decodeGroups 2 (bits % 16) 0 rest
        | 2 => ((16 * left + bits / 4).toUInt8 :: ·) <$> decodeGroups 3 (bits % 4) 0 rest
        | _ => ((64 * left + bits).toUInt8 :: ·) <$> decodeGroups 0 0 0 rest

/-- The bytes of a text in base 64. -/
def decodeBase64 (s : String) : Option (List UInt8) := decodeGroups 0 0 0 s.toList

end ClientGen.Text
