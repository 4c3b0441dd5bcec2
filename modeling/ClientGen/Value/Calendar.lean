/-!
# Dates and moments

A [Date] is a day of the calendar and a [Moment] a time on it, to the microsecond; its clock may be
a known number of seconds ahead of the common one. Two moments of known clocks are the same if they
are at the same instant ([Moment.same]). Both have a plain text, year first, and a longer one that
stands for them as items of a list.
-/

namespace ClientGen

/-! ## Dates -/

/-- A day of the calendar. -/
structure Date where
  year : Nat
  month : Nat
  day : Nat
  deriving DecidableEq, Repr, Inhabited

/-- Whether a year has a leap day. -/
def isLeapYear (year : Nat) : Bool :=
  year % 4 = 0 && (year % 100 != 0 || year % 400 = 0)

/-- The number of days of a month. -/
def daysOf (year month : Nat) : Nat :=
  if month = 2 then if isLeapYear year then 29 else 28
  else if [4, 6, 9, 11].contains month then 30
  else 31

/-- The number of days from the first of January of the year 1 on. -/
def Date.dayNumber (d : Date) : Nat :=
  let years := d.year - 1
  let before := (List.range (d.month - 1)).foldl (fun days m => days + daysOf d.year (m + 1)) 0
  365 * years + years / 4 - years / 100 + years / 400 + before + (d.day - 1)

/-- A number in decimal digits, with zeros in front up to a width. -/
def padded (width n : Nat) : String :=
  let digits := toString n
  String.ofList (List.replicate (width - digits.length) '0') ++ digits

/-- A date, year first. -/
def Date.text (d : Date) : String :=
  padded 4 d.year ++ "-" ++ padded 2 d.month ++ "-" ++ padded 2 d.day

/-- A date as an item of a list. -/
def Date.shown (d : Date) : String :=
  "datetime.date(" ++ toString d.year ++ ", " ++ toString d.month ++ ", " ++ toString d.day ++ ")"

/-! ## Moments -/

/-- A time on a day. -/
structure Moment where
  date : Date
  hour : Nat
  minute : Nat
  second : Nat
  microsecond : Nat
  /-- The seconds by which its clock is ahead of the common one, if that is known. -/
  ahead : Option Int
  deriving DecidableEq, Repr, Inhabited

/-- The seconds of a day. -/
def secondsOfDay : Nat := 86400

/-- A span of seconds as it is shown, in whole days and what is left. -/
def spanShown (seconds : Int) : String :=
  let days := seconds / (secondsOfDay : Int)
  let rest := seconds % (secondsOfDay : Int)
  let parts := (if days = 0 then [] else ["days=" ++ toString days]) ++
    (if rest = 0 then [] else ["seconds=" ++ toString rest])
  "datetime.timedelta(" ++ (if parts.isEmpty then "0" else ", ".intercalate parts) ++ ")"

namespace Moment

/-- The seconds on its own clock from the start of the year 1 on. -/
def clockSeconds (m : Moment) : Nat :=
  secondsOfDay * m.date.dayNumber + 3600 * m.hour + 60 * m.minute + m.second

/-- Whether two moments are the same. -/
def same (a b : Moment) : Bool :=
  match a.ahead, b.ahead with
  | some x, some y =>
    (a.clockSeconds : Int) - x == (b.clockSeconds : Int) - y && a.microsecond == b.microsecond
  | _, _ => a == b

/-- How far the clock is ahead, in hours and minutes. -/
def aheadText (seconds : Int) : String :=
  let minutes := seconds.natAbs / 60
  (if seconds < 0 then "-" else "+") ++ padded 2 (minutes / 60) ++ ":" ++ padded 2 (minutes % 60)

/-- A moment, with a text between its day and its time. -/
def textWith (between : String) (m : Moment) : String :=
  let fraction := if m.microsecond = 0 then "" else "." ++ padded 6 m.microsecond
  m.date.text ++ between ++ padded 2 m.hour ++ ":" ++ padded 2 m.minute ++ ":" ++
    padded 2 m.second ++ fraction ++ (m.ahead.map aheadText).getD ""

/-- A moment, year first. -/
def text (m : Moment) : String := m.textWith " "

/-- A moment as an item of a list. Seconds and microseconds are left out if nothing but zeros
follow. -/
def shown (m : Moment) : String :=
  let last := if m.microsecond != 0 then [m.second, m.microsecond]
    else if m.second != 0 then [m.second] else []
  let numbers := [m.date.year, m.date.month, m.date.day, m.hour, m.minute] ++ last
  let clock := match m.ahead with
    | none => ""
    | some seconds =>
      if seconds = 0 then ", tzinfo=datetime.timezone.utc"
      else ", tzinfo=datetime.timezone(" ++ spanShown seconds ++ ")"
  "datetime.datetime(" ++ ", ".intercalate (numbers.map toString) ++ clock ++ ")"

end Moment

end ClientGen
