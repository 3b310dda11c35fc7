import ItemStore.Number.Shortest

/-! # Writing numbers

A number is written either in positional form or with an exponent, and a format decides by the
place of the leading digit which of the two it uses.
-/
namespace ItemStore.Number

attribute [local instance (2000)] instPowNat

/-- How a format writes a finite value with the fewest digits that identify it. -/
structure Style where
  /-- Which of two equally near decimals is taken. -/
  tie : Tie
  /-- The powers of ten of the leading digit that are written in positional form: from the first
  up to but not including the second; none stands for all. -/
  positional : Option (Int × Int)
  /-- Whole numbers in positional form keep a point and a zero. -/
  keepPoint : Bool
  deriving DecidableEq, Repr

/-- Positional form only, and whole numbers without a point. -/
def Style.plain : Style := ⟨.up, none, false⟩

/-- Positional from 10^-5 up to 10^16, with a point in every number that has no exponent. -/
def Style.document : Style := ⟨.toEven, some (-5, 16), true⟩

def natText (n : Nat) : List Char := Nat.toDigits 10 n

def intText (i : Int) : List Char :=
  if i < 0 then '-' :: natText i.natAbs else natText i.natAbs

def zeros (n : Nat) : List Char := List.replicate n '0'

namespace Decimal

/-- The power of ten of the leading digit. -/
def leadingPower (d : Decimal) : Int := d.exponent + (natText d.coefficient).length - 1

def positionalText (d : Decimal) (keepPoint : Bool) : List Char :=
  let digits := natText d.coefficient
  if 0 ≤ d.exponent then
    digits ++ zeros d.exponent.toNat ++ (if keepPoint then ['.', '0'] else [])
  else
    let places := (-d.exponent).toNat
    if places < digits.length then
      digits.take (digits.length - places) ++ '.' :: digits.drop (digits.length - places)
    else '0' :: '.' :: zeros (places - digits.length) ++ digits

def scientificText (d : Decimal) : List Char :=
  let digits := natText d.coefficient
  let fraction := digits.drop 1
  let power := d.leadingPower
  digits.take 1 ++ (if fraction.isEmpty then [] else '.' :: fraction) ++
    'e' :: (if power < 0 then '-' else '+') :: natText power.natAbs

def text (d : Decimal) (style : Style) : List Char :=
  match style.positional with
  | none => d.positionalText style.keepPoint
  | some (low, high) =>
    if low ≤ d.leadingPower ∧ d.leadingPower < high then d.positionalText style.keepPoint
    else d.scientificText

end Decimal

namespace Binary64

def signText (negative : Bool) : List Char := if negative then ['-'] else []

/-- The text of a value in a style. -/
def text (x : Binary64) (style : Style) : List Char :=
  match x with
  | .nan => ['N', 'a', 'N']
  | .infinite negative => signText negative ++ ['i', 'n', 'f']
  | .finite negative m =>
    signText negative ++
      (if m.isZero then Decimal.text ⟨0, 0⟩ style else (m.shortest style.tie).text style)

/-- The text of a value with a fixed number of decimal places, the exact value being rounded to
nearest and a tie to the even neighbour. -/
def fixedText (x : Binary64) (places : Nat) : List Char :=
  match x with
  | .finite negative m =>
    let scaled := roundDiv (m.units * 10 ^ places) (2 ^ (1074 : Nat)) .toEven
    let digits := natText scaled
    let padded := zeros (places + 1 - digits.length) ++ digits
    signText negative ++ padded.take (padded.length - places) ++
      (if places = 0 then [] else '.' :: padded.drop (padded.length - places))
  | x => x.text .plain

end Binary64

end ItemStore.Number
