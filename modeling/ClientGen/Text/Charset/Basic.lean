import ClientGen.Value.Display

/-!
# Ways to write a text as bytes

A [Charset] has names and reads bytes as characters. What stands for nothing becomes the
[replacement] character, so that only a few charsets fail, and then for a reason of their own
([CharsetFault]). A charset whose characters take several bytes says what it takes from the start of
the bytes that are left ([Taken]), and [decodeBy] goes on behind it.
-/

namespace ClientGen.Text

/-- The character for bytes that stand for nothing. -/
def replacement : Char := '\ufffd'

/-- Why a charset does not read bytes. -/
inductive CharsetFault where
  /-- There is no mark that tells the order of the bytes of a unit. -/
  | noMark (unitBits : Nat)
  /-- The charset is none on purpose. -/
  | undefined
  /-- The charset replaces nothing. -/
  | noReplacement
  /-- The charset makes bytes of bytes. -/
  | makesBytes
  /-- The charset makes texts of texts. -/
  | takesText
  /-- A character that is not complete at the end has too many bytes. -/
  | longEnd
  /-- A third set of characters is chosen from that has none. -/
  | noThirdSet
  /-- Of two pieces of its name one is numbered and the other is not. -/
  | mixedPieces (isNumbered : Bool)
  /-- A byte that has to be in ASCII is not. -/
  | beyondAscii (byte place : Nat)
  deriving DecidableEq, Repr

/-- The words for a fault. -/
def CharsetFault.words : CharsetFault → String
  | noMark unitBits => "UTF-" ++ toString unitBits ++ " stream does not start with BOM"
  | undefined => "undefined encoding"
  | noReplacement => "Unsupported error handling replace"
  | makesBytes => ""
  | takesText => "descriptor 'translate' for 'str' objects doesn't apply to a 'bytes' object"
  | longEnd => "pending buffer overflow"
  | noThirdSet => "internal codec error"
  | mixedPieces isNumbered =>
    "'<' not supported between instances of " ++
      if isNumbered then "'int' and 'NoneType'" else "'NoneType' and 'int'"
  | beyondAscii byte place =>
    "'ascii' codec can't decode byte 0x" ++ String.ofList (hexText 2 byte) ++ " in position " ++
      toString place ++ ": ordinal not in range(128)"

/-- A way to write a text as bytes, with the names that it is known by: its own first, then
others. -/
structure Charset where
  names : List String
  decode : List UInt8 → Except CharsetFault (List Char)

/-- The character of a code point; there is none for half of a pair. -/
def charOf (code : Nat) : Char := if code.isValidChar then Char.ofNat code else replacement

/-- What is taken from the start of bytes, in a state `σ` that is left for the next ones. -/
inductive Taken (σ : Type) where
  /-- Characters of a number of bytes. -/
  | chars (cs : List Char) (size : Nat) (state : σ)
  /-- A number of bytes that stand for nothing. -/
  | nothing (size : Nat)
  /-- There are too few bytes for a character. -/
  | short
  | failed (fault : CharsetFault)

/-- The characters of bytes, of which `take` takes some at a time. Bytes that are too few at the end
are replaced together. Something is taken each time, so that the length of the bytes is enough
`fuel`. -/
def takeAll {σ : Type} (take : σ → List Nat → Taken σ) :
    Nat → σ → List Nat → Except CharsetFault (List Char)
  | 0, _, _ => .ok []
  | _, _, [] => .ok []
  | fuel + 1, state, bytes =>
    match take state bytes with
    | .chars cs size state => (cs ++ ·) <$> takeAll take fuel state (bytes.drop size)
    | .nothing size => (replacement :: ·) <$> takeAll take fuel state (bytes.drop size)
    | .short => .ok [replacement]
    | .failed fault => .error fault

/-- The characters of bytes from a state on. -/
def decodeBy {σ : Type} (take : σ → List Nat → Taken σ) (start : σ) (bytes : List UInt8) :
    Except CharsetFault (List Char) :=
  takeAll take bytes.length start (bytes.map UInt8.toNat)

/-- What is taken where some bytes are characters of their own and others are the first ones of
two. -/
def takePair (single? : Nat → Option Char) (pair? : Nat → Nat → Option (List Char)) (_ : Unit) :
    List Nat → Taken Unit
  | [] => .short
  | a :: rest =>
    match single? a, rest with
    | some c, _ => .chars [c] 1 ()
    | none, [] => .short
    | none, b :: _ =>
      match pair? a b with
      | some cs => .chars cs 2 ()
      | none => .nothing 1

/-- The character of ASCII of a byte. -/
def ascii? (byte : Nat) : Option Char := if byte < 128 then some (Char.ofNat byte) else none

end ClientGen.Text
