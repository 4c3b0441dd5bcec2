import ClientGen.Number.Reader
import ClientGen.Value.Fault

/-!
# Written days and moments

A day is written as year, month and day with dashes between them, and a moment with a time behind
it: hour, minute and second, a fraction of a second, and by how much the clock is ahead
([momentParts?]). Of a fraction the first six digits count.
-/

namespace ClientGen.Yaml

/-- How far a clock is ahead: not at all, or by hours and minutes. -/
structure WrittenZone where
  negative : Bool
  hour : List Char
  minute : List Char

/-- A written time. -/
structure WrittenTime where
  hour : List Char
  minute : List Char
  second : List Char
  fraction : List Char
  zone : Option WrittenZone

/-- A written day or moment. -/
structure WrittenMoment where
  year : List Char
  month : List Char
  day : List Char
  time : Option WrittenTime

/-! ## Reading the parts -/

/-- As many digits at the start of a text as are wanted, and what is left. -/
def digits? (width : Nat) (cs : List Char) : Option (List Char × List Char) :=
  let found := cs.take width
  if found.length = width && found.all Char.isDigit then some (found, cs.drop width) else none

/-- One or two digits at the start of a text. -/
def oneOrTwo? (cs : List Char) : Option (List Char × List Char) :=
  (digits? 2 cs).or (digits? 1 cs)

/-- What is left behind a character that has to come next. -/
def behind? (c : Char) (cs : List Char) : Option (List Char) :=
  if cs.head? = some c then some (cs.drop 1) else none

/-- Whether a character is a blank in a written moment. -/
def isMomentBlank (c : Char) : Bool := c == ' ' || c == '\t'

/-- How far the clock is ahead, which takes up all of a text. -/
def zone? (cs : List Char) : Option (Option WrittenZone) :=
  match cs, cs.dropWhile isMomentBlank with
  | [], _ => some none
  | _, ['Z'] => some (some ⟨false, [], []⟩)
  | _, sign :: rest =>
    if sign = '+' || sign = '-' then do
      let (hour, rest) ← oneOrTwo? rest
      if rest.isEmpty then some (some ⟨sign == '-', hour, []⟩)
      else
        let (minute, rest) ← digits? 2 (← behind? ':' rest)
        if rest.isEmpty then some (some ⟨sign == '-', hour, minute⟩) else none
    else none
  | _, [] => none

/-- A time, which takes up all of a text. -/
def time? (cs : List Char) : Option WrittenTime := do
  let (hour, rest) ← oneOrTwo? cs
  let (minute, rest) ← digits? 2 (← behind? ':' rest)
  let (second, rest) ← digits? 2 (← behind? ':' rest)
  let (fraction, rest) := if rest.head? = some '.' then takeDigits (rest.drop 1) else ([], rest)
  return ⟨hour, minute, second, fraction, ← zone? rest⟩

/-- A text without what parts a day from a time: a letter or blanks. -/
def timeStart? (cs : List Char) : Option (List Char) :=
  if cs.head?.any fun c => c == 'T' || c == 't' then some (cs.drop 1)
  else if cs.head?.any isMomentBlank then some (cs.dropWhile isMomentBlank)
  else none

/-- The parts of a day or a moment. -/
def momentParts? (cs : List Char) : Option WrittenMoment := do
  let (year, rest) ← digits? 4 cs
  let (month, rest) ← oneOrTwo? (← behind? '-' rest)
  let (day, rest) ← oneOrTwo? (← behind? '-' rest)
  if rest.isEmpty then return ⟨year, month, day, none⟩
  return ⟨year, month, day, some (← time? (← timeStart? rest))⟩

/-- Whether a plain scalar is a day or a moment. A day alone has two digits in each part. -/
def isMoment (cs : List Char) : Bool :=
  (momentParts? cs).any fun w => w.time.isSome || (w.month.length == 2 && w.day.length == 2)

/-! ## Values -/

/-- The seconds by which a clock is ahead. -/
def WrittenZone.seconds (z : WrittenZone) : Int :=
  let n : Int := 3600 * digitsValue z.hour + 60 * digitsValue z.minute
  if z.negative then -n else n

/-- The microseconds of a fraction. -/
def microseconds (fraction : List Char) : Nat :=
  let digits := fraction.take 6
  digitsValue (digits ++ List.replicate (6 - digits.length) '0')

/-- The day or the moment that is written. -/
def WrittenMoment.value (w : WrittenMoment) : Except CalendarFault Value :=
  let (year, month, day) := (digitsValue w.year, digitsValue w.month, digitsValue w.day)
  match w.time with
  | none => (Date.ofNumbers year month day).map .date
  | some t =>
    (Moment.ofNumbers year month day (digitsValue t.hour) (digitsValue t.minute)
      (digitsValue t.second) (microseconds t.fraction) (t.zone.map (·.seconds))).map .moment

end ClientGen.Yaml
