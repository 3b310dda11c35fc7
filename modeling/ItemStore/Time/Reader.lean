import ItemStore.Text.Search
import ItemStore.Time.Layout

/-! # Reading times by a layout

The pieces of a layout are matched one after the other against the start of what is left of the
text. Each piece puts what it denotes into the fields, and nothing may be left at the end.
-/
namespace ItemStore.Time
open Number (isDigit natOfDigits)
open Text (trimStart dropStart? dropWord?)

attribute [local instance (2000)] instPowNat

/-- The number in at least one and at most `limit` digits at the start, and what follows them. -/
def takeNumber? (limit : Option Nat) (text : List Char) : Option (Int × List Char) :=
  let run := text.takeWhile isDigit
  let digits := match limit with
    | some n => run.take n
    | none => run
  let value : Int := natOfDigits digits
  if digits.isEmpty || !Number.fitsInt64 value then none
  else some (value, text.drop digits.length)

/-- The number in exactly `count` digits. -/
def takeDigits? (count : Nat) (text : List Char) : Option (Int × List Char) :=
  let digits := text.take count
  if digits.length = count ∧ digits.all isDigit then some (natOfDigits digits, text.drop count)
  else none

/-- The value of a component, with a sign where it may have one. -/
def takeComponent? (component : Component) (text : List Char) : Option (Int × List Char) :=
  match component.isSigned, text with
  | true, '-' :: rest => (takeNumber? none rest).map fun (n, rest) => (-n, rest)
  | true, '+' :: rest => takeNumber? none rest
  | _, text => takeNumber? component.width text

/-- The nanoseconds of a fraction that is written with that many digits. -/
def scaledNanos (value : Int) (count : Nat) : Int := value * 10 ^ (9 - count)

/-- The fraction of a second in any number of digits, of which nine count. -/
def takeFraction? (text : List Char) : Option (Int × List Char) :=
  let digits := (text.takeWhile isDigit).take 9
  if digits.isEmpty then none
  else some (scaledNanos (natOfDigits digits) digits.length, text.dropWhile isDigit)

def monthNames : List (String × String) :=
  [("jan", "uary"), ("feb", "ruary"), ("mar", "ch"), ("apr", "il"), ("may", ""), ("jun", "e"),
    ("jul", "y"), ("aug", "ust"), ("sep", "tember"), ("oct", "ober"), ("nov", "ember"),
    ("dec", "ember")]

def weekdayNames : List (String × String) :=
  [("mon", "day"), ("tue", "sday"), ("wed", "nesday"), ("thu", "rsday"), ("fri", "day"),
    ("sat", "urday"), ("sun", "day")]

/-- The place of the name at the start in a list of names. A name is known by its first three
letters, and its further letters are taken with it if the full name is asked for. -/
def takeName? (names : List (String × String)) (full : Bool) (text : List Char) :
    Option (Nat × List Char) :=
  names.zipIdx.findSome? fun ((short, more), place) =>
    (dropWord? short text).map fun rest =>
      (place, if full then (dropWord? more rest).getD rest else rest)

/-- The sign of an offset; true stands for west of universal time. -/
def takeOffsetSign? : List Char → Option (Bool × List Char)
  | '+' :: rest => some (false, rest)
  | '-' :: rest => some (true, rest)
  | '\u2212' :: rest => some (true, rest)
  | _ => none

def isColonOrBlank (c : Char) : Bool := c == ':' || Text.isBlank c

/-- The two digits of the minutes of an offset. -/
def takeOffsetMinutes? (text : List Char) : Option (Int × List Char) :=
  (takeDigits? 2 text).bind fun (n, rest) => if n < 60 then some (n, rest) else none

/-- An offset in hours and minutes as seconds to the east. -/
def takeSignedOffset? (form : OffsetForm) (text : List Char) : Option (Int × List Char) := do
  let (west, text) ← takeOffsetSign? text
  let (hours, text) ← takeDigits? 2 text
  let text ← if form = .strict then dropStart? [':'] text else some (text.dropWhile isColonOrBlank)
  let (minutes, text) ←
    if form = .lenient ∧ text = [] then some (0, []) else takeOffsetMinutes? text
  let seconds := hours * 3600 + minutes * 60
  if form = .strict ∧ 86400 ≤ seconds then none
  else some (if west then -seconds else seconds, text)

/-- An offset in a form. Only the strict form allows no blanks before it. -/
def takeOffset? (form : OffsetForm) (text : List Char) : Option (Int × List Char) :=
  let text := if form = .strict then text else trimStart text
  match form, text with
  | .numeric, text => takeSignedOffset? form text
  | _, 'Z' :: rest | _, 'z' :: rest => some (0, rest)
  | .named, text =>
    match dropWord? "utc" text with
    | some rest => some (0, rest)
    | none => takeSignedOffset? form text
  | _, text => takeSignedOffset? form text

/-- The fields and the rest of the text after one piece. -/
def Directive.read? (directive : Directive) (f : Fields) (text : List Char) :
    Option (Fields × List Char) :=
  match directive with
  | .literal c => (dropStart? [c] text).map (f, ·)
  | .blank => some (f, trimStart text)
  | .number component => do
    let (value, rest) ← takeComponent? component (trimStart text)
    (component.set f value).map (·, rest)
  | .digits component count => do
    let (value, rest) ← takeDigits? count text
    (component.set f value).map (·, rest)
  | .monthName full => do
    let (place, rest) ← takeName? monthNames full text
    (f.setMonth (place + 1)).map (·, rest)
  | .weekdayName full => do
    let (place, rest) ← takeName? weekdayNames full text
    (f.setWeekday place).map (·, rest)
  | .halfDay =>
    match dropWord? "am" text, dropWord? "pm" text with
    | some rest, _ => (f.setHalfDay 0).map (·, rest)
    | _, some rest => (f.setHalfDay 1).map (·, rest)
    | _, _ => none
  | .fraction =>
    match text with
    | '.' :: rest => do
      let (nanos, rest) ← takeFraction? rest
      (f.setNanos nanos).map (·, rest)
    | text => some (f, text)
  | .pointDigits count =>
    match text with
    | '.' :: rest => do
      let (value, rest) ← takeDigits? count rest
      (f.setNanos (scaledNanos value count)).map (·, rest)
    | text => some (f, text)
  | .fractionDigits count => do
    let (value, rest) ← takeDigits? count text
    (f.setNanos (scaledNanos value count)).map (·, rest)
  | .zoneName => some (f, text.dropWhile fun c => !Text.isBlank c)
  | .dateEnd =>
    match text with
    | 'T' :: rest | 't' :: rest | ' ' :: rest => some (f, rest)
    | _ => none
  | .offset form => do
    let (seconds, rest) ← takeOffset? form text
    (f.setOffset seconds).map (·, rest)

namespace Layout

/-- The fields that a text gives, and what is left of it. -/
def readStart? : Layout → Fields → List Char → Option (Fields × List Char)
  | [], f, text => some (f, text)
  | directive :: layout, f, text => do
    let (f, rest) ← directive.read? f text
    readStart? layout f rest

/-- The fields of a text that the layout describes to its end. -/
def readFields? (layout : Layout) (text : List Char) : Option Fields :=
  match layout.readStart? {} text with
  | some (f, []) => some f
  | _ => none

end Layout

/-- The instant of a time in the standard form of the net. -/
def ofInternet? (text : String) : Option Instant :=
  (Layout.internet.readFields? text.toList).bind Fields.resolveInstant

/-- The instant of a time as documents keep it. Blanks may follow it. -/
def ofDocument? (text : String) : Option Instant :=
  (Layout.readFields? (Layout.document ++ [.blank]) text.toList).bind Fields.resolveInstant

/-- The instant that fields denote where the zone may be left out, and then also the time of day:
universal time and midnight stand for them. -/
def Fields.resolve (f : Fields) : Option Instant :=
  match f.resolveInstant with
  | some t => some t
  | none =>
    match f.resolveLocal 0 with
    | some t => some t
    | none =>
      match f.resolveDay with
      | .ok day => some (instantOf day (0, 0))
      | .error _ => none

end ItemStore.Time
