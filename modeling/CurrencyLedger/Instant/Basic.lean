/-! # Instants

A moment of coordinated universal time: a day, a second of the day and nanoseconds. During a leap
second the nanoseconds run on past `10 ^ 9`.

* **`dayOf`**, **`civil`** — days counted from the first of January 1970, and dates of the Gregorian
  calendar. -/

namespace CurrencyLedger

/-- A moment in time. -/
@[ext] structure Instant where
  /-- Days since the first of January 1970. -/
  day : Int
  /-- Seconds since midnight. -/
  second : Nat
  /-- Nanoseconds, `10 ^ 9` and more in a leap second. -/
  nano : Nat
  second_lt : second < 86400
  nano_lt : nano < 2000000000
  leap_last : 1000000000 ≤ nano → second % 60 = 59
  deriving DecidableEq, Repr

namespace Instant

/-- The instant of given parts, if they name one. -/
def ofParts? (day : Int) (second nano : Nat) : Option Instant :=
  if h : second < 86400 ∧ nano < 2000000000 ∧ (1000000000 ≤ nano → second % 60 = 59) then
    some ⟨day, second, nano, h.1, h.2.1, h.2.2⟩
  else none

/-- The first moment of 1970, and milliseconds after it. -/
def ofMillis (ms : Nat) : Instant where
  day := ms / 86400000
  second := ms / 1000 % 86400
  nano := ms % 1000 * 1000000
  second_lt := Nat.mod_lt _ (by decide)
  nano_lt := by omega
  leap_last := by omega

/-! ## Dates -/

/-- A date of the Gregorian calendar. -/
structure Date where
  /-- The year; the year before 1 is 0. -/
  year : Int
  /-- The month, from 1 to 12. -/
  month : Int
  /-- The day of the month. -/
  day : Int
  deriving DecidableEq, Repr

/-- Whether a year has 366 days. -/
def isLeapYear (year : Int) : Bool :=
  year % 4 == 0 && (year % 100 != 0 || year % 400 == 0)

/-- How many days a month has. -/
def monthLength (year month : Int) : Int :=
  if month == 2 then if isLeapYear year then 29 else 28
  else if month == 4 || month == 6 || month == 9 || month == 11 then 30
  else 31

/-- Whether the calendar has the date. -/
def Date.isValid (d : Date) : Bool :=
  1 ≤ d.month && d.month ≤ 12 && 1 ≤ d.day && d.day ≤ monthLength d.year d.month

/-- Days from the first of January 1970 to a date. Years are counted from March, so that a leap day
ends its year. -/
def dayOf (d : Date) : Int :=
  let y := if d.month ≤ 2 then d.year - 1 else d.year
  let era := y / 400
  let yearOfEra := y % 400
  let dayOfYear := (153 * ((d.month + 9) % 12) + 2) / 5 + d.day - 1
  let dayOfEra := yearOfEra * 365 + yearOfEra / 4 - yearOfEra / 100 + dayOfYear
  era * 146097 + dayOfEra - 719468

/-- The date that lies a number of days after the first of January 1970. -/
def civil (day : Int) : Date :=
  let shifted := day + 719468
  let era := shifted / 146097
  let dayOfEra := shifted % 146097
  let yearOfEra :=
    (dayOfEra - dayOfEra / 1460 + dayOfEra / 36524 - dayOfEra / 146096) / 365
  let dayOfYear := dayOfEra - (365 * yearOfEra + yearOfEra / 4 - yearOfEra / 100)
  let march := (5 * dayOfYear + 2) / 153
  let month := if march < 10 then march + 3 else march - 9
  { year := yearOfEra + era * 400 + (if month ≤ 2 then 1 else 0)
    month := month
    day := dayOfYear - (153 * march + 2) / 5 + 1 }

end Instant

end CurrencyLedger
