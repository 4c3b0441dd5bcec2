import ClientGen.Number.Arithmetic
import ClientGen.Text.Base64
import ClientGen.Text.Case
import ClientGen.Yaml.Kind

/-!
# Values of scalars

What a scalar of a kind is worth ([Kind.value]). The text of a scalar that is told by its form
always has that form, but one with a tag may hold anything, so that every kind is read by a rule
that may fail. Minutes and seconds are added up from the last one on, and doubles among them are
rounded at every step.
-/

namespace ClientGen.Yaml

/-! ## Integers -/

/-- The value of a digit in a base up to sixteen. -/
def digitIn? (base : Nat) (c : Char) : Option Nat := (Text.hexDigit? c).filter (· < base)

/-- The letters that announce a base behind a zero. -/
def baseLetters : List (Nat × List Char) := [(2, ['b', 'B']), (8, ['o', 'O']), (16, ['x', 'X'])]

/-- A number without the zero and the letter that announce its base. -/
def dropBase (base : Nat) : List Char → List Char
  | '0' :: letter :: rest =>
    if ((baseLetters.lookup base).getD []).contains letter then rest else '0' :: letter :: rest
  | cs => cs

/-- The integer in a base that a text is, blanks at its ends and a sign allowed. -/
def integerIn (base : Nat) (cs : List Char) : Except ReadingFault Int :=
  let (negative, body) := takeSign (Text.dropEnds Text.isBlank cs)
  let body := dropBase base body
  let count := (body.takeWhile Char.isDigit).length
  if base = 10 && longestInteger < count then .error (.longInteger count)
  else match body.isEmpty, body.mapM (digitIn? base) with
    | false, some digits =>
      let n : Nat := digits.foldl (fun n d => base * n + d) 0
      .ok (if negative then -(n : Int) else n)
    | _, _ => .error (.noInteger base (String.ofList cs))

/-- The integer of numbers parted by colons. -/
def sixtiesInteger (cs : List Char) : Except ReadingFault Int := do
  let parts ← (Text.pieces ':' cs).mapM (integerIn 10)
  return parts.foldl (fun n part => 60 * n + part) 0

/-- An integer without its sign. -/
def unsignedInteger (body : List Char) : Except ReadingFault Int :=
  match body with
  | [] => .error .emptyNumber
  | '0' :: 'b' :: digits => integerIn 2 digits
  | '0' :: 'x' :: digits => integerIn 16 digits
  | '0' :: _ => integerIn 8 body
  | _ => if body.contains ':' then sixtiesInteger body else integerIn 10 body

/-- The integer that a text stands for. -/
def integerValue (s : String) : Except ReadingFault Int :=
  let (negative, body) := takeSign (s.toList.filter (· != '_'))
  (unsignedInteger body).map fun n => if negative then -n else n

/-! ## Doubles -/

/-- The double that a text is, blanks at its ends and a sign allowed. -/
def plainDouble (cs : List Char) : Except ReadingFault Double :=
  match Double.ofPlainText? (Text.dropEnds Text.isBlank cs) with
  | some d => .ok d
  | none => .error (.noDouble (String.ofList cs))

/-- A sum of parts with further ones, each of which counts sixty of the one in front of it. The
first one counts `factor`. -/
def addSixties (factor : Nat) (sum : Double) : List Double → Except ReadingFault Double
  | [] => .ok sum
  | part :: rest =>
    match Double.ofNat? factor with
    | none => .error .largeFactor
    | some f => addSixties (60 * factor) (sum.add (part.mul f)) rest

/-- The double of numbers parted by colons. -/
def sixtiesDouble (cs : List Char) : Except ReadingFault Double := do
  let parts ← (Text.pieces ':' cs).mapM plainDouble
  addSixties 1 (.zero false) parts.reverse

/-- A double without its sign. -/
def unsignedDouble (body : List Char) : Except ReadingFault Double :=
  if body = ".inf".toList then .ok (.infinite false)
  else if body = ".nan".toList then .ok .nan
  else if body.contains ':' then sixtiesDouble body
  else plainDouble body

/-- The double that a text stands for. -/
def doubleValue (s : String) : Except ReadingFault Double :=
  let cs := (Text.lower s).toList.filter (· != '_')
  if cs.isEmpty then .error .emptyNumber
  else
    let (negative, body) := takeSign cs
    (unsignedDouble body).map fun d => if negative then d.neg else d

/-! ## Other scalars -/

/-- The truth value of a word, in any case. -/
def truthValue (s : String) : Except ReadingFault Bool :=
  match truthWords.lookup (Text.lower s) with
  | some b => .ok b
  | none => .error (.noTruth (Text.lower s))

/-- The day or the moment that a text stands for. -/
def momentValue (s : String) : Except ReadingFault Value :=
  match momentParts? (dropBreak s).toList with
  | some written => written.value.mapError .calendar
  | none => .error .noMoment

/-- The bytes that a text in ASCII stands for. -/
def bytesValue (s : String) : Except Fault Value :=
  orMalformed ((Text.decodeBase64 s).filter fun _ => s.toList.all (·.toNat < 128)) |>.map .bytes

/-- The value of a scalar of a kind. -/
def Kind.value (kind : Kind) (s : String) : Except Fault Value :=
  match kind with
  | .absent => .ok .null
  | .truth => ((truthValue s).map .bool).mapError .reading
  | .integer => ((integerValue s).map .int).mapError .reading
  | .double => ((doubleValue s).map .double).mapError .reading
  | .moment => (momentValue s).mapError .reading
  | .text => .ok (.text s)
  | .bytes => bytesValue s
  | _ => .error .malformed

end ClientGen.Yaml
