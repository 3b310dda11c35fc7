import ItemStore.Number.Numeral
import ItemStore.Time.Instant

/-! # Fields of a written time

A text gives some fields of a date and a time. Fields that are given twice have to agree, and a date
or a time is resolved from any sufficient choice of them and checked against the others.
-/
namespace ItemStore.Time

structure Fields where
  year : Option Int := none
  century : Option Int := none
  yearOfCentury : Option Int := none
  isoYear : Option Int := none
  isoYearOfCentury : Option Int := none
  quarter : Option Int := none
  month : Option Int := none
  weekFromSunday : Option Int := none
  weekFromMonday : Option Int := none
  isoWeek : Option Int := none
  /-- Monday is zero. -/
  weekday : Option Int := none
  ordinal : Option Int := none
  day : Option Int := none
  /-- Zero before noon and one after it. -/
  halfDay : Option Int := none
  hourOfHalf : Option Int := none
  minute : Option Int := none
  second : Option Int := none
  nanos : Option Int := none
  timestamp : Option Int := none
  /-- Seconds to the east of universal time. -/
  offset : Option Int := none
  deriving DecidableEq, Repr

/-- The new content of a field, if it agrees with the old one. -/
def agree (old : Option Int) (new : Int) : Option (Option Int) :=
  match old with
  | none => some (some new)
  | some o => if o = new then some (some new) else none

def within (low high value : Int) : Bool := low ≤ value && value ≤ high

def isInt32 (value : Int) : Bool := within (-2147483648) 2147483647 value

namespace Fields

def setYear (f : Fields) (v : Int) : Option Fields :=
  if isInt32 v then (agree f.year v).map fun x => { f with year := x } else none

def setCentury (f : Fields) (v : Int) : Option Fields :=
  if within 0 2147483647 v then (agree f.century v).map fun x => { f with century := x } else none

def setYearOfCentury (f : Fields) (v : Int) : Option Fields :=
  if within 0 99 v then (agree f.yearOfCentury v).map fun x => { f with yearOfCentury := x } else none

def setIsoYear (f : Fields) (v : Int) : Option Fields :=
  if isInt32 v then (agree f.isoYear v).map fun x => { f with isoYear := x } else none

def setIsoYearOfCentury (f : Fields) (v : Int) : Option Fields :=
  if within 0 99 v then (agree f.isoYearOfCentury v).map fun x => { f with isoYearOfCentury := x }
  else none

def setQuarter (f : Fields) (v : Int) : Option Fields :=
  if within 1 4 v then (agree f.quarter v).map fun x => { f with quarter := x } else none

def setMonth (f : Fields) (v : Int) : Option Fields :=
  if within 1 12 v then (agree f.month v).map fun x => { f with month := x } else none

def setDay (f : Fields) (v : Int) : Option Fields :=
  if within 1 31 v then (agree f.day v).map fun x => { f with day := x } else none

def setWeekFromSunday (f : Fields) (v : Int) : Option Fields :=
  if within 0 53 v then (agree f.weekFromSunday v).map fun x => { f with weekFromSunday := x } else none

def setWeekFromMonday (f : Fields) (v : Int) : Option Fields :=
  if within 0 53 v then (agree f.weekFromMonday v).map fun x => { f with weekFromMonday := x } else none

def setIsoWeek (f : Fields) (v : Int) : Option Fields :=
  if within 1 53 v then (agree f.isoWeek v).map fun x => { f with isoWeek := x } else none

def setWeekday (f : Fields) (v : Int) : Option Fields :=
  (agree f.weekday v).map fun x => { f with weekday := x }

/-- The weekday as a number from zero for Sunday. -/
def setDaysFromSunday (f : Fields) (v : Int) : Option Fields :=
  if within 0 6 v then f.setWeekday ((v + 6) % 7) else none

/-- The weekday as a number from one for Monday. -/
def setWeekdayNumber (f : Fields) (v : Int) : Option Fields :=
  if within 1 7 v then f.setWeekday (v - 1) else none

def setOrdinal (f : Fields) (v : Int) : Option Fields :=
  if within 1 366 v then (agree f.ordinal v).map fun x => { f with ordinal := x } else none

def setHalfDay (f : Fields) (v : Int) : Option Fields :=
  (agree f.halfDay v).map fun x => { f with halfDay := x }

def setHourOfHalf (f : Fields) (v : Int) : Option Fields :=
  (agree f.hourOfHalf v).map fun x => { f with hourOfHalf := x }

/-- The hour on a clock of twelve hours. -/
def setHour12 (f : Fields) (v : Int) : Option Fields :=
  if within 1 12 v then f.setHourOfHalf (v % 12) else none

def setHour (f : Fields) (v : Int) : Option Fields :=
  if within 0 23 v then (f.setHalfDay (v / 12)).bind (·.setHourOfHalf (v % 12)) else none

def setMinute (f : Fields) (v : Int) : Option Fields :=
  if within 0 59 v then (agree f.minute v).map fun x => { f with minute := x } else none

def setSecond (f : Fields) (v : Int) : Option Fields :=
  if within 0 60 v then (agree f.second v).map fun x => { f with second := x } else none

def setNanos (f : Fields) (v : Int) : Option Fields :=
  if within 0 999999999 v then (agree f.nanos v).map fun x => { f with nanos := x } else none

def setTimestamp (f : Fields) (v : Int) : Option Fields :=
  (agree f.timestamp v).map fun x => { f with timestamp := x }

def setOffset (f : Fields) (v : Int) : Option Fields :=
  (agree f.offset v).map fun x => { f with offset := x }

end Fields

/-- Why a date or a time cannot be resolved: a field is missing, or what is given is wrong. -/
inductive Gap
  | missing
  | wrong
  deriving DecidableEq, Repr

/-- The year that a full year, a century and a year of the century give together. Two digits alone
stand for the years from 1970 to 2069. -/
def resolveYear : (year century short : Option Int) → Except Gap (Option Int)
  | year, none, none => .ok year
  | some y, century, short =>
    if y < 0 then .error .wrong
    else if century.getD (y / 100) = y / 100 ∧ short.getD (y % 100) = y % 100 then .ok (some y)
    else .error .wrong
  | none, some q, some r => if isInt32 (q * 100 + r) then .ok (some (q * 100 + r)) else .error .wrong
  | none, none, some r => .ok (some (r + if r < 70 then 2000 else 1900))
  | none, some _, none => .error .missing

/-- A field is absent or has that value. -/
def fits (field : Option Int) (value : Int) : Bool := field.all (· == value)

/-- A part of a year that only years from zero on have. -/
def fitsYear (field : Option Int) (year value : Int) : Bool :=
  if 0 ≤ year then fits field value else field.isNone

namespace Fields

def fitsDate (f : Fields) (day : Int) : Bool :=
  let date := dateOf day
  fits f.year date.year && fitsYear f.century date.year (date.year / 100) &&
    fitsYear f.yearOfCentury date.year (date.year % 100) && fits f.month date.month &&
    fits f.day date.day

def fitsIsoWeek (f : Fields) (day : Int) : Bool :=
  let (year, week) := isoWeekOf day
  fits f.isoYear year && fitsYear f.isoYearOfCentury year (year % 100) && fits f.isoWeek week &&
    fits f.weekday (weekdayOf day)

def fitsWeeks (f : Fields) (day : Int) : Bool :=
  fits f.ordinal (ordinalOf day) && fits f.weekFromSunday (weekFrom 6 day) &&
    fits f.weekFromMonday (weekFrom 0 day)

def orWrong {α : Type} (value : Option α) : Except Gap α :=
  match value with
  | some a => .ok a
  | none => .error .wrong

/-- The day that the fields denote, taken from the first sufficient choice of them: year, month and
day; year and ordinal; year, week and weekday; ISO year, week and weekday. -/
def candidateDay (f : Fields) : Except Gap Int := do
  let year ← resolveYear f.year f.century f.yearOfCentury
  let isoYear ← resolveYear f.isoYear none f.isoYearOfCentury
  match year, f.month, f.day with
  | some y, some m, some d => orWrong (dayOfDate? ⟨y, m.toNat, d.toNat⟩)
  | _, _, _ =>
  match year, f.ordinal with
  | some y, some o => orWrong (dayOfOrdinal? y o.toNat)
  | _, _ =>
  match year, f.weekFromSunday, f.weekday with
  | some y, some w, some d => orWrong (dayOfWeek? 6 y w.toNat d.toNat)
  | _, _, _ =>
  match year, f.weekFromMonday, f.weekday with
  | some y, some w, some d => orWrong (dayOfWeek? 0 y w.toNat d.toNat)
  | _, _, _ =>
  match isoYear, f.isoWeek, f.weekday with
  | some y, some w, some d => orWrong (dayOfIsoWeek? y w.toNat d.toNat)
  | _, _, _ => .error .missing

/-- The day that all given fields agree on. -/
def resolveDay (f : Fields) : Except Gap Int := do
  let day ← f.candidateDay
  if f.fitsDate day && f.fitsIsoWeek day && f.fitsWeeks day &&
      fits f.quarter (((dateOf day).month - 1) / 3 + 1 : Nat) then .ok day
  else .error .wrong

/-- The second of the day and the nanoseconds that the fields denote. A second may be left out, a
fraction needs one, and a second of 60 is a leap second. -/
def resolveTime (f : Fields) : Except Gap (Nat × Nat) :=
  match f.halfDay, f.hourOfHalf, f.minute with
  | some half, some hour, some minute =>
    let second := f.second.getD 0
    let start := ((half * 12 + hour) * 60 + minute) * 60
    let leap : Nat := if second = 60 then nanosPerSecond else 0
    match f.nanos, f.second with
    | some _, none => .error .missing
    | nanos, _ => .ok ((start + min second 59).toNat, leap + (nanos.getD 0).toNat)
  | _, _, _ => .error .missing

/-- The instant of a day and a time of day, as if at universal time. -/
def instantOf (day : Int) (time : Nat × Nat) : Instant := ⟨day * secondsPerDay + time.1, time.2⟩

/-- The fields with the date and time of a timestamp put in. A leap second keeps its 60. -/
def withTimestamp (f : Fields) (seconds : Int) : Option Fields := do
  let shown := secondOfDay seconds % 60
  let (seconds, f) ←
    if f.second = some 60 then
      if shown = 59 then some (seconds, f) else if shown = 0 then some (seconds - 1, f) else none
    else (f.setSecond shown).map fun f => (seconds, f)
  let day := dayOf seconds
  let time := secondOfDay seconds
  let f ← f.setYear (yearOf day)
  let f ← f.setOrdinal (ordinalOf day)
  let f ← f.setHour (time / 3600 : Nat)
  f.setMinute (time / 60 % 60 : Nat)

/-- The local time that the fields denote where the clock is `offset` seconds ahead. A timestamp
has to agree with the other fields, and fills in what they leave open. -/
def resolveLocal (f : Fields) (offset : Int) : Option Instant :=
  match f.resolveDay, f.resolveTime with
  | .ok day, .ok time =>
    let t := instantOf day time
    match f.timestamp with
    | none => some t
    | some given =>
      let expected := t.seconds - offset
      if given = expected ∨ (nanosPerSecond ≤ t.nanos ∧ given = expected + 1) then some t else none
  | .error .wrong, _ => none
  | _, .error .wrong => none
  | _, _ => do
    let given ← f.timestamp
    let seconds := given + offset
    if Number.fitsInt64 seconds && inRange seconds then
      let f ← f.withTimestamp seconds
      match f.resolveDay, f.resolveTime with
      | .ok day, .ok time => some (instantOf day time)
      | _, _ => none
    else none

/-- The instant that the fields denote. An offset or a timestamp has to be given. -/
def resolveInstant (f : Fields) : Option Instant := do
  let offset ← match f.offset, f.timestamp with
    | some o, _ => some o
    | none, some _ => some 0
    | none, none => none
  let t ← f.resolveLocal offset
  if -86400 < offset ∧ offset < 86400 then ofSeconds? (t.seconds - offset) t.nanos else none

end Fields

end ItemStore.Time
