/-
# Dates and moments

Days of the calendar and times of day, alone and with the distance of their clock from the
standard one.

* `Date`, `Clock`, `Moment` — a day, a time of day, and a time on a day; `CalendarFault` — why
  numbers are none.
* `Date.of`, `Clock.of`, `checkedOffset` — those of numbers that are checked.
* `Moment.instant` — the time that two moments of different clocks are compared by.
* `Date.text`, `Date.display`, `Moment.text`, `Moment.display` — their written forms.
-/

import KeyTree.Number.Shortest

namespace KeyTree

/-- A day of the calendar. -/
structure Date where
  year : Nat
  month : Nat
  day : Nat
  deriving DecidableEq, Repr, Inhabited

/-- A time of day. -/
structure Clock where
  hour : Nat
  minute : Nat
  second : Nat
  microsecond : Nat
  deriving DecidableEq, Repr, Inhabited

/-- A time on a day. The offset is the number of minutes by which the clock is ahead of the
standard one, if it is known. -/
structure Moment where
  date : Date
  clock : Clock
  offset : Option Int := none
  deriving DecidableEq, Repr, Inhabited

/-- Why numbers are no date or no moment. -/
inductive CalendarFault where
  | year
  | month
  | day
  | hour
  | minute
  | second
  | offset (minutes : Int)
  deriving DecidableEq, Repr

/-! ### Days -/

/-- Whether a year has a day more. -/
def isLeapYear (year : Nat) : Bool := year % 4 = 0 && (year % 100 ≠ 0 || year % 400 = 0)

/-- The number of days of a month. -/
def daysOfMonth (year month : Nat) : Nat :=
  if month = 2 then if isLeapYear year then 29 else 28
  else if [4, 6, 9, 11].contains month then 30
  else 31

/-- The date of a year, a month and a day, if there is one. -/
def Date.of (year month day : Nat) : Except CalendarFault Date :=
  if year = 0 then .error .year
  else if month = 0 ∨ 12 < month then .error .month
  else if day = 0 ∨ daysOfMonth year month < day then .error .day
  else .ok ⟨year, month, day⟩

/-- The number of days before a date, from the first day of the year zero on. -/
def Date.number (d : Date) : Nat :=
  (List.range d.year).foldl (fun n year => n + (if isLeapYear year then 366 else 365)) 0
    + (List.range (d.month - 1)).foldl (fun n month => n + daysOfMonth d.year (month + 1)) 0
    + d.day

/-! ### Times -/

/-- The number of minutes of a day. -/
def minutesOfDay : Int := 1440

/-- The offset of a clock, which must be less than a day. -/
def checkedOffset (minutes : Int) : Except CalendarFault Int :=
  if minutes.natAbs < minutesOfDay then .ok minutes else .error (.offset minutes)

/-- The time of a day. -/
def Clock.of (hour minute second microsecond : Nat) : Except CalendarFault Clock :=
  if 23 < hour then .error .hour
  else if 59 < minute then .error .minute
  else if 59 < second then .error .second
  else .ok ⟨hour, minute, second, microsecond⟩

/-- The number of microseconds from the start of a fixed day on, by the standard clock if the
offset is known. -/
def Moment.instant (m : Moment) : Int :=
  let minutes : Int := m.date.number * minutesOfDay + m.clock.hour * 60 + m.clock.minute
    - m.offset.getD 0
  (minutes * 60 + m.clock.second) * 1000000 + m.clock.microsecond

/-- Whether two moments are the same: times by known clocks at one instant, or times of one
day by unknown clocks. -/
def Moment.same (m n : Moment) : Bool :=
  m.offset.isSome = n.offset.isSome && m.instant = n.instant

/-! ### Written forms -/

/-- A number of two digits at least. -/
def twoDigits (n : Nat) : String := Binary64.padZeros 2 (toString n)

/-- A date as year, month and day with hyphens between them. -/
def Date.text (d : Date) : String :=
  Binary64.padZeros 4 (toString d.year) ++ "-" ++ twoDigits d.month ++ "-" ++ twoDigits d.day

/-- The parts of a clock: a number of days, which may be negative, and of seconds. -/
def spanParts (minutes : Int) : List String :=
  let days := minutes / minutesOfDay
  let seconds := minutes % minutesOfDay * 60
  (if days = 0 then [] else ["days=" ++ toString days])
    ++ (if seconds = 0 then [] else ["seconds=" ++ toString seconds])

/-- A span of time as it is shown. -/
def displaySpan (minutes : Int) : String :=
  let parts := spanParts minutes
  "datetime.timedelta(" ++ (if parts.isEmpty then "0" else String.intercalate ", " parts) ++ ")"

/-- The wording of a fault. -/
def CalendarFault.message : CalendarFault → String
  | .year => "year 0 is out of range"
  | .month => "month must be in 1..12"
  | .day => "day is out of range for month"
  | .hour => "hour must be in 0..23"
  | .minute => "minute must be in 0..59"
  | .second => "second must be in 0..59"
  | .offset minutes =>
    "offset must be a timedelta strictly between -timedelta(hours=24) and timedelta(hours=24), "
      ++ "not " ++ displaySpan minutes ++ "."

/-- How a date is shown. -/
def Date.display (d : Date) : String :=
  "datetime.date(" ++ String.intercalate ", " ([d.year, d.month, d.day].map toString) ++ ")"

/-- How the offset of a clock is shown. -/
def displayOffset (minutes : Int) : String :=
  if minutes = 0 then "datetime.timezone.utc"
  else "datetime.timezone(" ++ displaySpan minutes ++ ")"

/-- How a moment is shown: the seconds and the parts of a second are left out when they and
all after them are zero. -/
def Moment.display (m : Moment) : String :=
  let small :=
    if m.clock.microsecond ≠ 0 then [m.clock.second, m.clock.microsecond]
    else if m.clock.second ≠ 0 then [m.clock.second]
    else []
  let numbers := [m.date.year, m.date.month, m.date.day, m.clock.hour, m.clock.minute] ++ small
  let zone := m.offset.toList.map fun minutes => "tzinfo=" ++ displayOffset minutes
  "datetime.datetime(" ++ String.intercalate ", " (numbers.map toString ++ zone) ++ ")"

/-- The offset of a clock as a sign, hours and minutes. -/
def offsetText (minutes : Int) : String :=
  (if minutes < 0 then "-" else "+") ++ twoDigits (minutes.natAbs / 60) ++ ":"
    ++ twoDigits (minutes.natAbs % 60)

/-- A moment as a date and a time of day. -/
def Moment.text (m : Moment) : String :=
  m.date.text ++ " " ++ twoDigits m.clock.hour ++ ":" ++ twoDigits m.clock.minute ++ ":"
    ++ twoDigits m.clock.second
    ++ (if m.clock.microsecond = 0 then ""
        else "." ++ Binary64.padZeros 6 (toString m.clock.microsecond))
    ++ ((m.offset.map offsetText).getD "")

end KeyTree
