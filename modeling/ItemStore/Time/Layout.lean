import ItemStore.Text.Blank
import ItemStore.Time.Fields

/-! # Layouts of written times

A layout says what stands in a written time, piece by piece. In its text a percent sign and the
letters after it name a piece, a blank stands for any white space, and every other character stands
for itself.
-/
namespace ItemStore.Time

/-- A part of a date or a time that is written in digits. -/
inductive Component
  | year
  | century
  | yearOfCentury
  | isoYear
  | isoYearOfCentury
  | quarter
  | month
  | day
  | weekFromSunday
  | weekFromMonday
  | isoWeek
  | daysFromSunday
  | weekdayNumber
  | ordinal
  | hour
  | hour12
  | minute
  | second
  | nanos
  | timestamp
  deriving DecidableEq, Repr

namespace Component

/-- The most digits that are read, if there is such a bound. -/
def width : Component → Option Nat
  | .year | .isoYear => some 4
  | .quarter | .daysFromSunday | .weekdayNumber => some 1
  | .ordinal => some 3
  | .nanos => some 9
  | .timestamp => none
  | _ => some 2

/-- A sign may stand before the digits, and then their number has no bound. -/
def isSigned : Component → Bool
  | .year | .isoYear => true
  | _ => false

/-- The fields with the component put in. -/
def set (component : Component) (f : Fields) (value : Int) : Option Fields :=
  match component with
  | .year => f.setYear value
  | .century => f.setCentury value
  | .yearOfCentury => f.setYearOfCentury value
  | .isoYear => f.setIsoYear value
  | .isoYearOfCentury => f.setIsoYearOfCentury value
  | .quarter => f.setQuarter value
  | .month => f.setMonth value
  | .day => f.setDay value
  | .weekFromSunday => f.setWeekFromSunday value
  | .weekFromMonday => f.setWeekFromMonday value
  | .isoWeek => f.setIsoWeek value
  | .daysFromSunday => f.setDaysFromSunday value
  | .weekdayNumber => f.setWeekdayNumber value
  | .ordinal => f.setOrdinal value
  | .hour => f.setHour value
  | .hour12 => f.setHour12 value
  | .minute => f.setMinute value
  | .second => f.setSecond value
  | .nanos => f.setNanos value
  | .timestamp => f.setTimestamp value

end Component

/-- How the distance from universal time is written. -/
inductive OffsetForm
  /-- A sign, two digits of hours and two of minutes, with colons or blanks between them or not. -/
  | numeric
  /-- The same with the minutes left out, or a `Z`. -/
  | lenient
  /-- The same with the minutes, or a `Z`, or the word `UTC`. -/
  | named
  /-- A `Z`, or hours and minutes with one colon between them and below a day. -/
  | strict
  deriving DecidableEq, Repr

/-- One piece of a layout. -/
inductive Directive
  | literal (c : Char)
  /-- Any white space, also none. -/
  | blank
  /-- Digits up to the width of the component, after any white space. -/
  | number (component : Component)
  /-- Exactly that many digits. -/
  | digits (component : Component) (count : Nat)
  /-- The name of a month in three letters, or also in full. -/
  | monthName (full : Bool)
  | weekdayName (full : Bool)
  /-- The two letters for the half of the day. -/
  | halfDay
  /-- A point and the digits of a fraction of a second, if the point is there. -/
  | fraction
  /-- The same with exactly that many digits. -/
  | pointDigits (count : Nat)
  /-- The first digits of a fraction of a second, without a point. -/
  | fractionDigits (count : Nat)
  /-- A word that is skipped. -/
  | zoneName
  /-- What stands between a date and a time: a `T` or a space. -/
  | dateEnd
  | offset (form : OffsetForm)
  deriving DecidableEq, Repr

abbrev Layout := List Directive

namespace Layout

def date : Layout := [.number .year, .literal '-', .number .month, .literal '-', .number .day]

def shortDate : Layout :=
  [.number .month, .literal '/', .number .day, .literal '/', .number .yearOfCentury]

def hourMinute : Layout := [.number .hour, .literal ':', .number .minute]

def clock : Layout := hourMinute ++ [.literal ':', .number .second]

/-- The form in which documents keep a time, read with some freedom: blanks before each mark, a
sign of the year, any number of digits of the fraction. -/
def document : Layout :=
  [.number .year, .blank, .literal '-', .number .month, .blank, .literal '-', .number .day, .dateEnd,
    .number .hour, .blank, .literal ':', .number .minute, .blank, .literal ':', .number .second,
    .fraction, .blank, .offset .named]

/-- The standard form of a time on the net, with each part at its full width. -/
def internet : Layout :=
  [.digits .year 4, .literal '-', .digits .month 2, .literal '-', .digits .day 2, .dateEnd,
    .digits .hour 2, .literal ':', .digits .minute 2, .literal ':', .digits .second 2, .fraction,
    .offset .strict]

/-- The component that a letter names. -/
def component? : Char → Option Component
  | 'Y' => some .year
  | 'C' => some .century
  | 'y' => some .yearOfCentury
  | 'G' => some .isoYear
  | 'g' => some .isoYearOfCentury
  | 'q' => some .quarter
  | 'm' => some .month
  | 'd' => some .day
  | 'e' => some .day
  | 'U' => some .weekFromSunday
  | 'W' => some .weekFromMonday
  | 'V' => some .isoWeek
  | 'w' => some .daysFromSunday
  | 'u' => some .weekdayNumber
  | 'j' => some .ordinal
  | 'H' => some .hour
  | 'k' => some .hour
  | 'I' => some .hour12
  | 'l' => some .hour12
  | 'M' => some .minute
  | 'S' => some .second
  | 'f' => some .nanos
  | 's' => some .timestamp
  | _ => none

/-- The pieces that one letter after the percent sign stands for. -/
def letter? (c : Char) : Option Layout :=
  match component? c with
  | some component => some [.number component]
  | none =>
    match c with
    | 'b' | 'h' => some [.monthName false]
    | 'B' => some [.monthName true]
    | 'a' => some [.weekdayName false]
    | 'A' => some [.weekdayName true]
    | 'p' | 'P' => some [.halfDay]
    | 'Z' => some [.zoneName]
    | 'z' => some [.offset .numeric]
    | '+' => some document
    | 'D' | 'x' => some shortDate
    | 'F' => some date
    | 'R' => some hourMinute
    | 'T' | 'X' => some clock
    | 'r' => some (.number .hour12 :: .literal ':' :: .number .minute :: .literal ':' ::
        [.number .second, .blank, .halfDay])
    | 'c' => some ([.weekdayName false, .blank, .monthName false, .blank, .number .day, .blank] ++
        clock ++ [.blank, .number .year])
    | 'v' => some [.number .day, .literal '-', .monthName false, .literal '-', .number .year]
    | 'n' | 't' => some [.blank]
    | '%' => some [.literal '%']
    | _ => none

/-- The pieces that the characters after a percent sign stand for, and how many they are. -/
def specifier? : List Char → Option (Layout × Nat)
  | ':' :: 'z' :: _ => some ([.offset .numeric], 2)
  | ':' :: ':' :: 'z' :: _ => some ([.offset .numeric], 3)
  | ':' :: ':' :: ':' :: 'z' :: _ => some ([.offset .numeric], 4)
  | '#' :: 'z' :: _ => some ([.offset .lenient], 2)
  | '.' :: 'f' :: _ => some ([.fraction], 2)
  | '.' :: '3' :: 'f' :: _ => some ([.pointDigits 3], 3)
  | '.' :: '6' :: 'f' :: _ => some ([.pointDigits 6], 3)
  | '.' :: '9' :: 'f' :: _ => some ([.pointDigits 9], 3)
  | '3' :: 'f' :: _ => some ([.fractionDigits 3], 2)
  | '6' :: 'f' :: _ => some ([.fractionDigits 6], 2)
  | '9' :: 'f' :: _ => some ([.fractionDigits 9], 2)
  | '-' :: c :: _ | '0' :: c :: _ | '_' :: c :: _ =>
    (component? c).map fun component => ([.number component], 2)
  | c :: _ => (letter? c).map fun pieces => (pieces, 1)
  | [] => none

/-- The layout that a text describes, if every percent sign in it begins a piece. -/
def ofChars? : List Char → Option Layout
  | [] => some []
  | '%' :: rest => do
    let (pieces, count) ← specifier? rest
    let layout ← ofChars? (rest.drop count)
    some (pieces ++ layout)
  | c :: rest => (ofChars? rest).map ((if Text.isBlank c then .blank else .literal c) :: ·)
termination_by text => text.length
decreasing_by
  · simp only [List.length_drop, List.length_cons]; omega
  · simp

end Layout

end ItemStore.Time
