import ClientGen.Value.Display

/-!
# Values that cannot be had

A scalar of a document may have the form of a date or a number and still stand for none, and a
collection may be inside too many others. A [ReadingFault] says why there is no value. Such a fault
is not one of the document's form, so that nothing on the way of a run provides for it.
-/

namespace ClientGen

/-- Why there is no such day or moment. -/
inductive CalendarFault where
  | year (number : Nat)
  | month
  | day
  | hour
  | minute
  | second
  /-- The clock is a day or more ahead or behind. -/
  | ahead (seconds : Int)
  deriving DecidableEq, Repr

/-- The words for a fault. -/
def CalendarFault.words : CalendarFault → String
  | .year number => "year " ++ toString number ++ " is out of range"
  | .month => "month must be in 1..12"
  | .day => "day is out of range for month"
  | .hour => "hour must be in 0..23"
  | .minute => "minute must be in 0..59"
  | .second => "second must be in 0..59"
  | .ahead seconds =>
    "offset must be a timedelta strictly between -timedelta(hours=24) and timedelta(hours=24), " ++
      "not " ++ spanShown seconds ++ "."

/-- Why a part of a document has no value. -/
inductive ReadingFault where
  | calendar (fault : CalendarFault)
  /-- It is marked as a moment, but has not the form of one. -/
  | noMoment
  /-- It is marked as a moment, but is no text. -/
  | noMomentText
  /-- It is marked as a truth value, but is none of the words. -/
  | noTruth (word : String)
  | emptyNumber
  | noInteger (base : Nat) (text : String)
  | noDouble (text : String)
  /-- An integer has more decimal digits than are read. -/
  | longInteger (digits : Nat)
  /-- A power of sixty is beyond the doubles. -/
  | largeFactor
  /-- An escape is beyond the last character. -/
  | noCharacter
  /-- An escape is beyond the numbers for characters. -/
  | hugeCharacter
  /-- A list is inside too many collections. -/
  | deepList
  /-- A mapping is inside too many collections. -/
  | deepMapping
  /-- A collection of any kind is inside too many others. -/
  | deep
  deriving DecidableEq, Repr

/-- The words for a fault. -/
def ReadingFault.words : ReadingFault → String
  | .calendar fault => fault.words
  | .noMoment => "'NoneType' object has no attribute 'groupdict'"
  | .noMomentText => "expected string or bytes-like object, got 'list'"
  | .noTruth word => quoted word
  | .emptyNumber => "string index out of range"
  | .noInteger base text =>
    "invalid literal for int() with base " ++ toString base ++ ": " ++ quoted text
  | .noDouble text => "could not convert string to float: " ++ quoted text
  | .longInteger digits =>
    longIntegerText ++ ": value has " ++ toString digits ++
      " digits; use sys.set_int_max_str_digits() to increase the limit"
  | .largeFactor => "int too large to convert to float"
  | .noCharacter => "chr() arg not in range(0x110000)"
  | .hugeCharacter => "Python int too large to convert to C int"
  | .deepList => tooDeepText ++ " while decoding a JSON array from a unicode string"
  | .deepMapping => tooDeepText ++ " while decoding a JSON object from a unicode string"
  | .deep => tooDeepText

/-! ## Days and moments -/

/-- The date of three numbers. -/
def Date.ofNumbers (year month day : Nat) : Except CalendarFault Date :=
  if year < 1 || 9999 < year then .error (.year year)
  else if month < 1 || 12 < month then .error .month
  else if day < 1 || daysOf year month < day then .error .day
  else .ok ⟨year, month, day⟩

/-- The moment of its numbers. The clock is looked at first. -/
def Moment.ofNumbers (year month day hour minute second microsecond : Nat) (ahead : Option Int) :
    Except CalendarFault Moment := do
  if let some seconds := ahead then
    if secondsOfDay ≤ seconds.natAbs then throw (.ahead seconds)
  let date ← Date.ofNumbers year month day
  if 23 < hour then throw .hour
  if 59 < minute then throw .minute
  if 59 < second then throw .second
  return { date, hour, minute, second, microsecond, ahead }

end ClientGen
