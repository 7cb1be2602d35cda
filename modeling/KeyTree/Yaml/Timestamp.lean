/-
# Timestamps

The form of dates and moments in a text: year, month and day with hyphens between them, and
behind them, if at all, a time of day with colons, the parts of a second after a point, and the
offset of the clock.

* `Timestamp`, `Timestamp.ofText?` — what a text of this form says.
* `Timestamp.value` — the date or the moment, or why there is none.
-/

import KeyTree.Value.Basic
import KeyTree.Yaml.Fault

namespace KeyTree.Yaml

/-- A time of day with the offset of its clock in minutes. -/
structure DayTime where
  hour : Nat
  minute : Nat
  second : Nat
  microsecond : Nat
  offset : Option Int
  deriving DecidableEq, Repr

/-- What a timestamp says. A padded one has a month and a day of two digits each. -/
structure Timestamp where
  year : Nat
  month : Nat
  day : Nat
  padded : Bool
  time : Option DayTime
  deriving DecidableEq, Repr

namespace Timestamp

/-- The number of some decimal digits. -/
def valueOf (digits : List Char) : Nat :=
  digits.foldl (fun n c => 10 * n + (c.toNat - 0x30)) 0

/-- The digits at the start of a text, at least `least` and at most `most`, and the rest. -/
def digits? (least most : Nat) (s : List Char) : Option (List Char × List Char) :=
  let digits := (s.take most).takeWhile Char.isDigit
  if digits.length < least then none else some (digits, s.drop digits.length)

/-- The rest of a text behind a mark. -/
def behind? (mark : Char) : List Char → Option (List Char)
  | [] => none
  | c :: rest => if c = mark then some rest else none

/-- Whether a character is a blank or a tabulator. -/
def isGap (c : Char) : Bool := c = ' ' || c = '\t'

/-- The rest of a text behind what separates a date from a time of day. -/
def behindGap? : List Char → Option (List Char)
  | [] => none
  | c :: rest =>
    if c = 'T' ∨ c = 't' then some rest
    else if isGap c then some (rest.dropWhile isGap)
    else none

/-- The number of microseconds of the digits after a point. -/
def microseconds (digits : List Char) : Nat :=
  valueOf (digits.take 6 ++ List.replicate (6 - digits.length) '0')

/-- The parts of a second at the start of a text, if there are some, and the rest. -/
def fraction (s : List Char) : Nat × List Char :=
  match s with
  | '.' :: rest => (microseconds (rest.takeWhile Char.isDigit), rest.dropWhile Char.isDigit)
  | s => (0, s)

/-- The offset of a clock in minutes, which is all of a text. -/
def offset? (s : List Char) : Option (Option Int) :=
  match s with
  | [] => some none
  | s =>
    match s.dropWhile isGap with
    | ['Z'] => some (some 0)
    | sign :: rest => do
      if sign ≠ '-' ∧ sign ≠ '+' then none
      let (hours, rest) ← digits? 1 2 rest
      let minutes ← match rest with
        | [] => some 0
        | rest => do
          let (minutes, rest) ← digits? 2 2 (← behind? ':' rest)
          if rest.isEmpty then some (valueOf minutes) else none
      let total : Int := valueOf hours * 60 + minutes
      some (some (if sign = '-' then -total else total))
    | [] => none

/-- The time of day that is all of a text. -/
def dayTime? (s : List Char) : Option DayTime := do
  let (hour, s) ← digits? 1 2 s
  let (minute, s) ← digits? 2 2 (← behind? ':' s)
  let (second, s) ← digits? 2 2 (← behind? ':' s)
  let (microsecond, s) := fraction s
  let offset ← offset? s
  return { hour := valueOf hour, minute := valueOf minute, second := valueOf second
           microsecond, offset }

/-- What a text says that has the form of a timestamp. -/
def ofText? (s : List Char) : Option Timestamp := do
  let (year, s) ← digits? 4 4 s
  let (month, s) ← digits? 1 2 (← behind? '-' s)
  let (day, s) ← digits? 1 2 (← behind? '-' s)
  let time ← match s with
    | [] => some none
    | s => some <$> (behindGap? s >>= dayTime?)
  return { year := valueOf year, month := valueOf month, day := valueOf day
           padded := month.length = 2 && day.length = 2, time }

/-- Whether a timestamp is recognised by its form alone. -/
def isEvident (t : Timestamp) : Bool := t.padded || t.time.isSome

/-- The moment of a date and a time of day. The offset is checked first. -/
def momentOf (t : Timestamp) (time : DayTime) : Except CalendarFault Moment := do
  let offset ← time.offset.mapM checkedOffset
  let date ← Date.of t.year t.month t.day
  let clock ← Clock.of time.hour time.minute time.second time.microsecond
  return { date, clock, offset }

/-- The date or the moment of a timestamp. -/
def value (t : Timestamp) : Except CalendarFault Value :=
  match t.time with
  | none => .date <$> Date.of t.year t.month t.day
  | some time => .moment <$> t.momentOf time

end Timestamp

end KeyTree.Yaml
