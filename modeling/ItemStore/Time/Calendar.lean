/-! # The calendar

Days are counted from 1970-01-01 in the Gregorian calendar extended in both directions. A date has
a year, an ordinal day, a month and a day of the month, a weekday, and an ISO week.
-/
namespace ItemStore.Time

def minYear : Int := -262143
def maxYear : Int := 262142

def isLeap (year : Int) : Bool := year % 4 == 0 && (year % 100 != 0 || year % 400 == 0)

def daysInYear (year : Int) : Nat := if isLeap year then 366 else 365

def daysInMonth (year : Int) (month : Nat) : Nat :=
  match month with
  | 2 => if isLeap year then 29 else 28
  | 4 | 6 | 9 | 11 => 30
  | _ => 31

/-- The day on which a year begins. -/
def yearStart (year : Int) : Int :=
  let y := year - 1
  365 * y + y / 4 - y / 100 + y / 400 - 719162

/-- The year of a day. -/
def yearOf (day : Int) : Int :=
  let guess := (day + 719162) * 400 / 146097 + 1
  if day < yearStart guess then guess - 1
  else if yearStart (guess + 1) ≤ day then guess + 1
  else guess

/-- The place of a day in its year, from one on. -/
def ordinalOf (day : Int) : Nat := (day - yearStart (yearOf day)).toNat + 1

/-- The days of a year before a month. -/
def daysBefore (year : Int) (month : Nat) : Nat :=
  (List.range (month - 1)).foldl (fun days m => days + daysInMonth year (m + 1)) 0

/-- The month of an ordinal day and the day of that month, counted through the months that are
left. -/
def monthDay (year : Int) (month ordinal : Nat) : (left : Nat) → Nat × Nat
  | 0 => (month, ordinal)
  | left + 1 =>
    if ordinal ≤ daysInMonth year month then (month, ordinal)
    else monthDay year (month + 1) (ordinal - daysInMonth year month) left

structure Date where
  year : Int
  month : Nat
  day : Nat
  deriving DecidableEq, Repr

/-- The date of a day. -/
def dateOf (day : Int) : Date :=
  let year := yearOf day
  let (month, dayOfMonth) := monthDay year 1 (ordinalOf day) 11
  ⟨year, month, dayOfMonth⟩

def inYears (year : Int) : Bool := minYear ≤ year && year ≤ maxYear

/-- The day of a date, if there is such a date. -/
def dayOfDate? (date : Date) : Option Int :=
  if inYears date.year && 1 ≤ date.month && date.month ≤ 12 && 1 ≤ date.day &&
      date.day ≤ daysInMonth date.year date.month then
    some (yearStart date.year + daysBefore date.year date.month + (date.day - 1 : Nat))
  else none

/-- The day with that place in a year, if the year has it. -/
def dayOfOrdinal? (year : Int) (ordinal : Nat) : Option Int :=
  if inYears year && 1 ≤ ordinal && ordinal ≤ daysInYear year then
    some (yearStart year + (ordinal - 1 : Nat))
  else none

/-- The weekday of a day, Monday being zero. -/
def weekdayOf (day : Int) : Nat := ((day + 3) % 7).toNat

/-- The days from one weekday to the next occurrence of another. -/
def weekdaysSince (weekday start : Nat) : Nat := (weekday + 7 - start) % 7

/-- The Monday of the first ISO week of a year, which is the week with January 4. -/
def isoYearStart (year : Int) : Int :=
  let fourth := yearStart year + 3
  fourth - weekdayOf fourth

/-- The year and the number of the ISO week of a day. -/
def isoWeekOf (day : Int) : Int × Nat :=
  let year := yearOf day
  let isoYear :=
    if day < isoYearStart year then year - 1
    else if isoYearStart (year + 1) ≤ day then year + 1
    else year
  (isoYear, ((day - isoYearStart isoYear) / 7).toNat + 1)

/-- The day of an ISO week, if the year has that week. -/
def dayOfIsoWeek? (year : Int) (week weekday : Nat) : Option Int :=
  let day := isoYearStart year + (week - 1 : Nat) * 7 + weekday
  if 1 ≤ week && isoYearStart year + (week - 1 : Nat) * 7 < isoYearStart (year + 1) &&
      inYears (yearOf day) then some day
  else none

/-- The number of a day's week in its year when week one begins with the first day of the year that
is the given weekday. -/
def weekFrom (start : Nat) (day : Int) : Nat :=
  (ordinalOf day + 6 - weekdaysSince (weekdayOf day) start) / 7

/-- The day of such a week, if it lies in the year. -/
def dayOfWeek? (start : Nat) (year : Int) (week weekday : Nat) : Option Int :=
  if 53 < week then none
  else do
    let first ← dayOfOrdinal? year 1
    let weekStart := 1 + weekdaysSince start (weekdayOf first)
    let ordinal : Int := weekStart + (week - 1 : Int) * 7 + weekdaysSince weekday start
    if ordinal ≤ 0 then none else dayOfOrdinal? year ordinal.toNat

end ItemStore.Time
