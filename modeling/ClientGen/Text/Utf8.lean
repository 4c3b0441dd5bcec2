import ClientGen.Value.Display

/-!
# Decoding UTF-8

[decode] turns bytes into characters or finds the first fault. Behind a leading byte a number of
bytes are owed ([Owed]); the range of the next one excludes long forms, halves of pairs and what is
beyond the last code point. [unifyLines] reads every kind of line break as a line feed.
-/

namespace ClientGen.Text

/-- What is wrong with bytes. -/
inductive Utf8FaultKind where
  | invalidStart
  | invalidContinuation
  | unexpectedEnd
  deriving DecidableEq, Repr

/-- A fault: the place of the first byte that is not decoded, that byte, and how many there are. -/
structure Utf8Fault where
  kind : Utf8FaultKind
  first : Nat
  byte : Nat
  count : Nat
  deriving DecidableEq, Repr

/-- The words for a fault. -/
def Utf8FaultKind.words : Utf8FaultKind → String
  | .invalidStart => "invalid start byte"
  | .invalidContinuation => "invalid continuation byte"
  | .unexpectedEnd => "unexpected end of data"

/-- The message for a fault. -/
def Utf8Fault.message (f : Utf8Fault) : String :=
  let place := if f.count ≤ 1 then
      "byte 0x" ++ String.ofList (hexText 2 f.byte) ++ " in position " ++ toString f.first
    else "bytes in position " ++ toString f.first ++ "-" ++ toString (f.first + f.count - 1)
  "'utf-8' codec can't decode " ++ place ++ ": " ++ f.kind.words

/-- A character of which some bytes are still to come. -/
structure Owed where
  /-- The leading byte. -/
  lead : Nat
  /-- The bits so far. -/
  bits : Nat
  /-- The number of bytes read. -/
  taken : Nat
  /-- The number of bytes to come behind the next one. -/
  more : Nat
  /-- The least value of the next byte. -/
  low : Nat
  /-- The greatest value of the next byte. -/
  high : Nat

/-- What a leading byte owes. -/
def Owed.ofLead? (b : Nat) : Option Owed :=
  if 0xC2 ≤ b && b < 0xE0 then some ⟨b, b - 0xC0, 1, 0, 0x80, 0xBF⟩
  else if 0xE0 ≤ b && b < 0xF0 then
    some ⟨b, b - 0xE0, 1, 1, if b = 0xE0 then 0xA0 else 0x80, if b = 0xED then 0x9F else 0xBF⟩
  else if 0xF0 ≤ b && b < 0xF5 then
    some ⟨b, b - 0xF0, 1, 2, if b = 0xF0 then 0x90 else 0x80, if b = 0xF4 then 0x8F else 0xBF⟩
  else none

/-- The characters of bytes from a place on, in the middle of a character or not. -/
def decodeFrom (place : Nat) : Option Owed → List UInt8 → Except Utf8Fault (List Char)
  | none, [] => .ok []
  | some o, [] => .error ⟨.unexpectedEnd, place - o.taken, o.lead, o.taken⟩
  | none, byte :: rest =>
    let b := byte.toNat
    if b < 0x80 then (decodeFrom (place + 1) none rest).map (Char.ofNat b :: ·)
    else match Owed.ofLead? b with
      | none => .error ⟨.invalidStart, place, b, 1⟩
      | some o => decodeFrom (place + 1) (some o) rest
  | some o, byte :: rest =>
    let b := byte.toNat
    if b < o.low || o.high < b then
      .error ⟨.invalidContinuation, place - o.taken, o.lead, o.taken⟩
    else
      let bits := 0x40 * o.bits + (b - 0x80)
      if o.more = 0 then (decodeFrom (place + 1) none rest).map (Char.ofNat bits :: ·)
      else
        decodeFrom (place + 1) (some ⟨o.lead, bits, o.taken + 1, o.more - 1, 0x80, 0xBF⟩) rest

/-- The text that bytes stand for. -/
def decode (bytes : ByteArray) : Except Utf8Fault String :=
  (decodeFrom 0 none bytes.toList).map String.ofList

/-- The text that bytes stand for, if they are one. -/
def textOfBytes? (bs : List UInt8) : Option String :=
  (decodeFrom 0 none bs).toOption.map String.ofList

/-- A list of characters with every line break as a line feed. -/
def unifyLines : List Char → List Char
  | [] => []
  | '\r' :: '\n' :: rest => '\n' :: unifyLines rest
  | '\r' :: rest => '\n' :: unifyLines rest
  | c :: rest => c :: unifyLines rest

end ClientGen.Text
