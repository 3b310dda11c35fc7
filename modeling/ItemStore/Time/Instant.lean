import ItemStore.Number.Notation
import ItemStore.Number.Numeral
import ItemStore.Time.Calendar

/-! # Instants

A point in time is counted in seconds and nanoseconds from the start of 1970. During a leap second
the nanoseconds go on beyond a second while the seconds stand still.
-/
namespace ItemStore.Time

structure Instant where
  seconds : Int
  nanos : Nat
  deriving DecidableEq, Repr

def secondsPerDay : Int := 86400

def nanosPerSecond : Nat := 1000000000

/-- The first second of the supported range. -/
def firstSecond : Int := -8334601228800

/-- The last second of the supported range. -/
def lastSecond : Int := 8210266876799

def inRange (seconds : Int) : Bool := firstSecond ≤ seconds && seconds ≤ lastSecond

/-- The instant that many seconds and nanoseconds after the epoch, within the supported range. -/
def ofSeconds? (seconds : Int) (nanos : Nat) : Option Instant :=
  if inRange seconds then some ⟨seconds, nanos⟩ else none

/-- An integer as a word of 64 bits with a sign, if it fits into one. -/
def word64? (i : Int) : Option Int := if Number.fitsInt64 i then some i else none

/-- An integer as a word of 32 bits without a sign, if it fits into one. -/
def nat32? (i : Int) : Option Nat := if 0 ≤ i ∧ i < 4294967296 then some i.toNat else none

/-- The second of a number of milliseconds and the nanoseconds after it, computed in words: there is
no answer if a step leaves them. The division rounds toward zero, so a negative rest is carried into
the second before. -/
def splitMillis? (millis : Int) : Option (Int × Nat) := do
  let rest ← word64? (millis.tmod 1000)
  let nanos ← word64? (rest * 1000000)
  let whole ← word64? (millis.tdiv 1000)
  if nanos < 0 then
    let seconds ← word64? (whole - 1)
    let carried ← word64? (nanos + nanosPerSecond)
    let nanos ← nat32? carried
    some (seconds, nanos)
  else
    let nanos ← nat32? nanos
    some (whole, nanos)

/-- The instant that many milliseconds after the epoch. -/
def ofMillis? (millis : Int) : Option Instant :=
  (splitMillis? millis).bind fun (seconds, nanos) => ofSeconds? seconds nanos

def dayOf (seconds : Int) : Int := seconds / secondsPerDay

def secondOfDay (seconds : Int) : Nat := (seconds % secondsPerDay).toNat

open Number (natText zeros)

def padded (width n : Nat) : List Char :=
  let digits := natText n
  zeros (width - digits.length) ++ digits

/-- Four digits, with a sign outside the years 0 to 9999. -/
def yearText (year : Int) : List Char :=
  if 0 ≤ year ∧ year ≤ 9999 then padded 4 year.toNat
  else (if year < 0 then '-' else '+') :: padded 4 year.natAbs

/-- The fraction of a second in three, six or nine digits, the fewest that are exact. -/
def fractionText (nanos : Nat) : List Char :=
  if nanos = 0 then []
  else if nanos % 1000000 = 0 then '.' :: padded 3 (nanos / 1000000)
  else if nanos % 1000 = 0 then '.' :: padded 6 (nanos / 1000)
  else '.' :: padded 9 nanos

/-- The instant in universal time, with a second of 60 during a leap second. -/
def Instant.text (t : Instant) : List Char :=
  let date := dateOf (dayOf t.seconds)
  let time := secondOfDay t.seconds
  yearText date.year ++ '-' :: padded 2 date.month ++ '-' :: padded 2 date.day ++
    'T' :: padded 2 (time / 3600) ++ ':' :: padded 2 (time / 60 % 60) ++
    ':' :: padded 2 (time % 60 + t.nanos / nanosPerSecond) ++
    fractionText (t.nanos % nanosPerSecond) ++ ['Z']

def Instant.render (t : Instant) : String := String.ofList t.text

end ItemStore.Time
