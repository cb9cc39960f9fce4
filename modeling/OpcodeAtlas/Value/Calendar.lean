/-!
# Dates and times

Days of the Gregorian calendar, times of a day, and moments: a day with a time and, for some, a
distance from universal time. Two moments that tell their distance are the same when they name the
same instant (`Moment.instant?`); one that tells it is never the same as one that does not.

Each kind has a written form (`text`), with a `T` or a blank between day and time, and a detailed
form (`detail`), which spells the parts as arguments.
-/

set_option autoImplicit false

namespace OpcodeAtlas

/-- A day of the calendar. -/
structure Day where
  year : Nat
  month : Nat
  day : Nat
  deriving DecidableEq, Repr

/-- A time of a day. -/
structure Clock where
  hour : Nat
  minute : Nat
  second : Nat
  microsecond : Nat
  deriving DecidableEq, Repr

/-- A day with a time, and the seconds by which its clock is ahead of universal time if they are
told. -/
structure Moment where
  day : Day
  clock : Clock
  ahead : Option Int
  deriving DecidableEq, Repr

/-- A number with zeros in front up to a width. -/
def padded (width n : Nat) : String :=
  let digits := toString n
  String.ofList (List.replicate (width - digits.length) '0') ++ digits

namespace Day

/-- Whether a year has 366 days. -/
def isLeap (year : Nat) : Bool :=
  year % 4 == 0 && (year % 100 != 0 || year % 400 == 0)

/-- The number of days of a month. -/
def monthLength (year month : Nat) : Nat :=
  if month = 2 then (if isLeap year then 29 else 28)
  else if month = 4 ∨ month = 6 ∨ month = 9 ∨ month = 11 then 30
  else 31

/-- Whether there is such a day, in the years 1 to 9999. -/
def isValid (d : Day) : Bool :=
  decide (1 ≤ d.year) && decide (d.year ≤ 9999) && decide (1 ≤ d.month) && decide (d.month ≤ 12) &&
    decide (1 ≤ d.day) && decide (d.day ≤ monthLength d.year d.month)

/-- The number of days of a year in front of a month. -/
def daysBefore (year : Nat) : Nat → Nat
  | 0 => 0
  | 1 => 0
  | month + 1 => daysBefore year month + monthLength year month

/-- The number of a day, counted from the first day of the year 1, which is day 1. -/
def ordinal (d : Day) : Nat :=
  let y := d.year - 1
  365 * y + y / 4 - y / 100 + y / 400 + daysBefore d.year d.month + d.day

/-- The written form: year, month and day. -/
def text (d : Day) : String := padded 4 d.year ++ "-" ++ padded 2 d.month ++ "-" ++ padded 2 d.day

/-- The detailed form. -/
def detail (d : Day) : String :=
  "datetime.date(" ++ toString d.year ++ ", " ++ toString d.month ++ ", " ++ toString d.day ++ ")"

end Day

namespace Clock

/-- Whether there is such a time of a day. -/
def isValid (c : Clock) : Bool :=
  decide (c.hour < 24) && decide (c.minute < 60) && decide (c.second < 60) &&
    decide (c.microsecond < 1000000)

/-- The seconds since the start of the day. -/
def seconds (c : Clock) : Nat := 3600 * c.hour + 60 * c.minute + c.second

/-- The written form; microseconds are left out when there are none. -/
def text (c : Clock) : String :=
  padded 2 c.hour ++ ":" ++ padded 2 c.minute ++ ":" ++ padded 2 c.second ++
    (if c.microsecond = 0 then "" else "." ++ padded 6 c.microsecond)

/-- The parts of the detailed form; zeros at its end are left out behind the minute. -/
def parts (c : Clock) : String :=
  toString c.hour ++ ", " ++ toString c.minute ++
    (if c.microsecond ≠ 0 then ", " ++ toString c.second ++ ", " ++ toString c.microsecond
      else if c.second ≠ 0 then ", " ++ toString c.second
      else "")

/-- The detailed form. -/
def detail (c : Clock) : String := "datetime.time(" ++ c.parts ++ ")"

end Clock

namespace Moment

/-- Whether there is such a moment. The clock is less than a day ahead or behind. -/
def isValid (m : Moment) : Bool :=
  m.day.isValid && m.clock.isValid &&
    (match m.ahead with
      | none => true
      | some s => decide (s.natAbs < 86400))

/-- The microseconds of a moment on its own clock. -/
def localTime (m : Moment) : Int :=
  (((m.day.ordinal : Int) * 86400 + m.clock.seconds) * 1000000) + m.clock.microsecond

/-- The instant that a moment names, in microseconds of universal time. -/
def instant? (m : Moment) : Option Int := m.ahead.map fun s => m.localTime - s * 1000000

/-- Whether two moments are the same. -/
def same (a b : Moment) : Bool :=
  match a.instant?, b.instant? with
  | some x, some y => x == y
  | none, none => a.localTime == b.localTime
  | _, _ => false

/-- A distance from universal time: sign, hours and minutes, and seconds if there are any. -/
def aheadText (s : Int) : String :=
  let n := s.natAbs
  (if s < 0 then "-" else "+") ++ padded 2 (n / 3600) ++ ":" ++ padded 2 (n / 60 % 60) ++
    (if n % 60 = 0 then "" else ":" ++ padded 2 (n % 60))

/-- The written form with the given separator between day and time. -/
def textWith (separator : String) (m : Moment) : String :=
  m.day.text ++ separator ++ m.clock.text ++
    (match m.ahead with
      | none => ""
      | some s => aheadText s)

/-- The written form with a `T`. -/
def text (m : Moment) : String := textWith "T" m

/-- The detailed form of a distance from universal time. -/
def zoneDetail (s : Int) : String :=
  if s = 0 then "datetime.timezone.utc"
  else
    let days := s.fdiv 86400
    let seconds := s.fmod 86400
    let parts := (if days = 0 then [] else ["days=" ++ toString days]) ++
      (if seconds = 0 then [] else ["seconds=" ++ toString seconds])
    "datetime.timezone(datetime.timedelta(" ++ ", ".intercalate parts ++ "))"

/-- The detailed form. -/
def detail (m : Moment) : String :=
  "datetime.datetime(" ++ toString m.day.year ++ ", " ++ toString m.day.month ++ ", " ++
    toString m.day.day ++ ", " ++ m.clock.parts ++
    (match m.ahead with
      | none => ""
      | some s => ", tzinfo=" ++ zoneDetail s) ++ ")"

end Moment

end OpcodeAtlas
