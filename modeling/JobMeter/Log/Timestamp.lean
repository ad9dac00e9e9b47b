import JobMeter.Log.Line

/-!
# Timestamps of log lines

An instant is counted in microseconds from the start of the year 1 of the Gregorian calendar.

* `Calendar`: the days before a year, a month and a day;
* `Moment`: the fields of a date and a time of day, and `Moment.valid`;
* `Moment.ofDate?`: the fields of a date part.  Of a field of two digits the first is always an
  ASCII digit, and so is the second where the first leaves it no free choice;
* `instant?`: date part and fraction to instant.
-/

namespace JobMeter.Log

open JobMeter.Text

/-- Microseconds since the start of the year 1. -/
abbrev Instant := Nat

/-! ## Calendar -/

namespace Calendar

/-- Every fourth year is a leap year, but of the full centuries only every fourth. -/
def isLeap (year : Nat) : Bool :=
  year % 4 == 0 && (year % 100 != 0 || year % 400 == 0)

/-- The number of days of a month, which counts from 1. -/
def daysInMonth (year month : Nat) : Nat :=
  match month with
  | 2 => if isLeap year then 29 else 28
  | 4 | 6 | 9 | 11 => 30
  | _ => 31

/-- The days from the start of the year 1 to the start of a year. -/
def daysBeforeYear (year : Nat) : Nat :=
  let y := year - 1
  365 * y + y / 4 - y / 100 + y / 400

/-- The days from the start of a year to the start of a month. -/
def daysBeforeMonth (year : Nat) : Nat → Nat
  | 0 => 0
  | 1 => 0
  | month + 1 => daysBeforeMonth year month + daysInMonth year month

end Calendar

/-- A date and a time of day. -/
structure Moment where
  year : Nat
  month : Nat
  day : Nat
  hour : Nat
  minute : Nat
  second : Nat
  deriving DecidableEq, Repr

namespace Moment

/-- Does the calendar have the date, and the day the time? -/
def valid (m : Moment) : Bool :=
  (1 ≤ m.year && m.year ≤ 9999) && (1 ≤ m.month && m.month ≤ 12) &&
    (1 ≤ m.day && m.day ≤ Calendar.daysInMonth m.year m.month) &&
    m.hour ≤ 23 && m.minute ≤ 59 && m.second ≤ 59

/-- The days from the start of the year 1 to the date. -/
def daysBefore (m : Moment) : Nat :=
  Calendar.daysBeforeYear m.year + Calendar.daysBeforeMonth m.year m.month + (m.day - 1)

/-- The seconds from the start of the year 1. -/
def seconds (m : Moment) : Nat :=
  ((m.daysBefore * 24 + m.hour) * 60 + m.minute) * 60 + m.second

end Moment

/-! ## Fields of a date part -/

/-- Which second digits may follow a first one. -/
inductive Units where
  /-- Any decimal digit. -/
  | any
  /-- The ASCII digits from `low` to `high`. -/
  | between (low high : Nat)
  deriving DecidableEq, Repr

/-- The value of a second digit. -/
def Units.value? (u : Units) (c : Char) : Option Nat :=
  match u with
  | .any => digitValue? c
  | .between low high =>
    if isAsciiDigit c then
      let d := c.toNat - '0'.toNat
      if low ≤ d ∧ d ≤ high then some d else none
    else none

/-- The two-digit numbers of a field: which second digits each first digit admits. -/
abbrev Field := List (Char × Units)

/-- The value of a field. -/
def Field.value? (f : Field) (tens units : Char) : Option Nat := do
  let (c, u) ← f.find? fun e => e.1 == tens
  let d ← u.value? units
  pure (10 * (c.toNat - '0'.toNat) + d)

namespace Field

/-- From 01 to 12. -/
def month : Field := [('0', .between 1 9), ('1', .between 0 2)]

/-- From 01 to 31. -/
def day : Field := [('0', .between 1 9), ('1', .any), ('2', .any), ('3', .between 0 1)]

/-- From 00 to 23. -/
def hour : Field := [('0', .any), ('1', .any), ('2', .between 0 3)]

/-- From 00 to 59. -/
def sixtieth : Field :=
  [('0', .any), ('1', .any), ('2', .any), ('3', .any), ('4', .any), ('5', .any)]

end Field

/-- The fields of a date part, each within its own range. -/
def Moment.ofDate? : List Char → Option Moment
  | [y1, y2, y3, y4, _, mo1, mo2, _, d1, d2, _, h1, h2, _, mi1, mi2, _, s1, s2] => do
    let year := decimalNumber [y1, y2, y3, y4]
    let month ← Field.month.value? mo1 mo2
    let day ← Field.day.value? d1 d2
    let hour ← Field.hour.value? h1 h2
    let minute ← Field.sixtieth.value? mi1 mi2
    let second ← Field.sixtieth.value? s1 s2
    pure ⟨year, month, day, hour, minute, second⟩
  | _ => none

/-- A fraction in microseconds: six digits of it, with zeros for those that are missing. -/
def microseconds (fraction : List Char) : Nat :=
  let kept := fraction.take 6
  decimalNumber (kept ++ List.replicate (6 - kept.length) '0')

/-- The instant of a date part and a fraction, if they name one. -/
def instant? (date fraction : List Char) : Option Instant := do
  let m ← Moment.ofDate? date
  if m.valid then pure (m.seconds * 1000000 + microseconds fraction) else none

end JobMeter.Log
