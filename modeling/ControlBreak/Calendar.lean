import ControlBreak.Number.Rounding

/-!
# Dates, times and durations

Dates of the years 1 to 9999, times of a day to the microsecond, the two
together, and durations between them. A date and a duration make a date again if
it stays within these years.
-/

namespace ControlBreak

/-- A day of the calendar. -/
structure Date where
  year : Nat
  month : Nat
  day : Nat
  deriving DecidableEq, Repr, Inhabited

/-- A time of the day. -/
structure TimeOfDay where
  hour : Nat
  minute : Nat
  second : Nat
  microsecond : Nat
  deriving DecidableEq, Repr, Inhabited

/-- A day and a time on it. -/
structure Moment where
  date : Date
  time : TimeOfDay
  deriving DecidableEq, Repr, Inhabited

/-- A length of time, in microseconds; it may be negative. -/
structure Duration where
  microseconds : Int
  deriving DecidableEq, Repr, Inhabited

namespace Date

def isLeap (year : Nat) : Bool :=
  year % 4 == 0 && (year % 100 != 0 || year % 400 == 0)

def daysInMonth (year month : Nat) : Nat :=
  if month = 2 then (if isLeap year then 29 else 28)
  else if month = 4 ∨ month = 6 ∨ month = 9 ∨ month = 11 then 30
  else 31

/-- The days of the months before `month` in `year`. -/
def daysBefore (year : Nat) : Nat → Nat
  | 0 => 0
  | 1 => 0
  | month + 1 => daysBefore year month + daysInMonth year month

/-- The number of the day, counted from the first day of the year 1, which is 1. -/
def ordinal (d : Date) : Nat :=
  let y := d.year - 1
  y * 365 + y / 4 - y / 100 + y / 400 + daysBefore d.year d.month + d.day

/-- The first day of the calendar. -/
def first : Date := ⟨1, 1, 1⟩

/-- The last day of the calendar. -/
def last : Date := ⟨9999, 12, 31⟩

/-- The greatest day number, that of the last day. -/
def maxOrdinal : Nat := 3652059

/-- The month in `year` of its `day`-th day, looked for from `month` on, and the
    day of this month. -/
def monthFrom (year day month : Nat) : Nat → Nat × Nat
  | 0 => (month, day)
  | left + 1 =>
    let n := daysInMonth year month
    if day ≤ n then (month, day) else monthFrom year (day - n) (month + 1) left

/-- The day with a given number. -/
def ofOrdinal (n : Nat) : Date :=
  let n := n - 1
  let (cycles400, n) := (n / 146097, n % 146097)
  let cycles100 := min (n / 36524) 3
  let n := n - cycles100 * 36524
  let (cycles4, n) := (n / 1461, n % 1461)
  let years := min (n / 365) 3
  let n := n - years * 365
  let year := cycles400 * 400 + cycles100 * 100 + cycles4 * 4 + years + 1
  let (month, day) := monthFrom year (n + 1) 1 11
  ⟨year, month, day⟩

def isValid (d : Date) : Bool :=
  1 ≤ d.year && d.year ≤ 9999 && 1 ≤ d.month && d.month ≤ 12 &&
    1 ≤ d.day && d.day ≤ daysInMonth d.year d.month

/-- The day `days` later, if the calendar has it. -/
def addDays? (d : Date) (days : Int) : Option Date :=
  let n : Int := d.ordinal + days
  if 1 ≤ n ∧ n ≤ maxOrdinal then some (ofOrdinal n.toNat) else none

/-- The day of the week on which a year begins, Monday being 0. -/
def firstWeekday (year : Nat) : Nat :=
  (ordinal ⟨year, 1, 1⟩ + 6) % 7

/-- The weeks of a year: those with a Thursday in it. -/
def weeksIn (year : Nat) : Nat :=
  if firstWeekday year = 3 ∨ (firstWeekday year = 2 ∧ isLeap year) then 53 else 52

/-- A day of a week of a year, counted from the Monday of the first week. Before the
    year 1 weeks belong to no month. -/
def ofWeek? (year week day : Nat) : Option Date :=
  if week = 0 ∨ weeksIn year < week ∨ day = 0 ∨ 7 < day then none
  else if year = 0 then some ⟨1, 0, 0⟩
  else
    let start := ordinal ⟨year, 1, 1⟩ + if 3 < firstWeekday year then 7 else 0
    some (ofOrdinal (start + 7 * (week - 1) + (day - 1) - firstWeekday year))

/-- The text of a date: year, month and day. -/
def text (d : Date) : String :=
  paddedText 4 d.year ++ "-" ++ paddedText 2 d.month ++ "-" ++ paddedText 2 d.day

end Date

namespace TimeOfDay

def isValid (t : TimeOfDay) : Bool :=
  t.hour < 24 && t.minute < 60 && t.second < 60 && t.microsecond < 1000000

/-- The first time of the day. -/
def first : TimeOfDay := ⟨0, 0, 0, 0⟩

/-- The last time of the day. -/
def last : TimeOfDay := ⟨23, 59, 59, 999999⟩

/-- The microseconds since midnight. -/
def sinceMidnight (t : TimeOfDay) : Nat :=
  ((t.hour * 60 + t.minute) * 60 + t.second) * 1000000 + t.microsecond

/-- The time so many microseconds after midnight. -/
def ofMicroseconds (n : Nat) : TimeOfDay :=
  let s := n / 1000000
  ⟨s / 3600, s / 60 % 60, s % 60, n % 1000000⟩

/-- The text of a time; microseconds are shown if there are any. -/
def text (t : TimeOfDay) : String :=
  paddedText 2 t.hour ++ ":" ++ paddedText 2 t.minute ++ ":" ++ paddedText 2 t.second ++
    if t.microsecond = 0 then "" else "." ++ paddedText 6 t.microsecond

end TimeOfDay

namespace Duration

def perDay : Int := 86400000000

/-- Whole days, rounded down; the other two parts are not negative. -/
def days (d : Duration) : Int := d.microseconds / perDay

def seconds (d : Duration) : Nat := (d.microseconds % perDay).toNat / 1000000

def subseconds (d : Duration) : Nat := (d.microseconds % perDay).toNat % 1000000

def ofParts (days seconds microseconds : Int) : Duration :=
  ⟨days * perDay + seconds * 1000000 + microseconds⟩

/-- The least duration. -/
def least : Duration := ofParts (-999999999) 0 0

/-- The greatest duration. -/
def greatest : Duration := ofParts 999999999 86399 999999

/-- Durations stay below a thousand million days. -/
def isValid (d : Duration) : Bool :=
  -999999999 ≤ d.days && d.days ≤ 999999999

/-- The text of a duration: its days, if any, and a time of the day. -/
def text (d : Duration) : String :=
  let n := d.days
  let t := TimeOfDay.ofMicroseconds (d.microseconds % perDay).toNat
  let clock := natText t.hour ++ ":" ++ paddedText 2 t.minute ++ ":" ++ paddedText 2 t.second ++
    if t.microsecond = 0 then "" else "." ++ paddedText 6 t.microsecond
  if n = 0 then clock
  else intText n ++ (if n.natAbs = 1 then " day, " else " days, ") ++ clock

end Duration

namespace Moment

/-- The microseconds since the start of the calendar. -/
def position (m : Moment) : Int :=
  (m.date.ordinal : Int) * Duration.perDay + m.time.sinceMidnight

/-- The moment a duration later, if the calendar has it. -/
def add? (m : Moment) (d : Duration) : Option Moment :=
  let n := m.position + d.microseconds
  let day := n / Duration.perDay
  if 1 ≤ day ∧ day ≤ Date.maxOrdinal then
    some ⟨Date.ofOrdinal day.toNat, TimeOfDay.ofMicroseconds (n % Duration.perDay).toNat⟩
  else none

/-- The text of a moment: its date and its time, with `separator` between them. -/
def text (separator : String) (m : Moment) : String :=
  m.date.text ++ separator ++ m.time.text

end Moment

end ControlBreak
