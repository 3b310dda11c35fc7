import ItemStore.Number.Binary64

/-! # The shortest decimal that identifies a value

The reals that round to a value of the 64-bit format form an interval, closed exactly when the
mantissa is even. Among the decimals in it those with the fewest digits are taken, and of these
the one nearest to the value.
-/
namespace ItemStore.Number

attribute [local instance (2000)] instPowNat

/-- The number `coefficient * 10 ^ exponent`. -/
structure Decimal where
  coefficient : Nat
  exponent : Int
  deriving DecidableEq, Repr

namespace Magnitude

/-- The value, in quarters of a unit. -/
def quarters (m : Magnitude) : Nat := 4 * m.units

/-- The lower end of the interval that rounds to the value, in quarters of a unit. Below a power of
two the gap is half as wide. -/
def lowerEnd (m : Magnitude) : Nat :=
  m.quarters - (if m.mantissa = 2 ^ (52 : Nat) ∧ 0 < m.exponent then 1 else 2) * 2 ^ m.exponent

/-- The upper end of the interval that rounds to the value, in quarters of a unit. -/
def upperEnd (m : Magnitude) : Nat := m.quarters + 2 * 2 ^ m.exponent

/-- The fraction of `n` quarters over `d` lies in the interval that rounds to the value. -/
def identifiedBy (m : Magnitude) (n d : Nat) : Bool :=
  if m.mantissa % 2 = 0 then m.lowerEnd * d ≤ n && n ≤ m.upperEnd * d
  else m.lowerEnd * d < n && n < m.upperEnd * d

/-- The point of the grid of multiples of `10 ^ exponent` that identifies the value, if one of the
two neighbours of the value does; the nearer of the two if both do. -/
def onGrid? (m : Magnitude) (exponent : Int) (tie : Tie) : Option Nat :=
  let d := 10 ^ (-exponent).toNat
  let step := 10 ^ exponent.toNat * 2 ^ (1076 : Nat)
  let q := m.quarters * d / step
  match m.identifiedBy (q * step) d, m.identifiedBy ((q + 1) * step) d with
  | true, true => some (roundDiv (m.quarters * d) step tie)
  | true, false => some q
  | false, true => some (q + 1)
  | false, false => none

/-- The value lies below `10 ^ k`. -/
def belowPower (m : Magnitude) (k : Int) : Bool :=
  m.units * 10 ^ (-k).toNat < 10 ^ k.toNat * 2 ^ (1074 : Nat)

/-- The least `k` with the value below `10 ^ k`, found from the binary logarithm. -/
def scale (m : Magnitude) : Int :=
  let estimate := ((m.units.log2 - 1074 : Int) * 30103).fdiv 100000
  if m.belowPower estimate then estimate
  else if m.belowPower (estimate + 1) then estimate + 1
  else estimate + 2

/-- The first of the grids with `count`, `count + 1`, … digits that holds a decimal for the value,
no more than `left` of them being tried. -/
def search (m : Magnitude) (scale : Int) (tie : Tie) : (left : Nat) → (count : Nat) → Option Decimal
  | 0, _ => none
  | left + 1, count =>
    match m.onGrid? (scale - count) tie with
    | some c => some ⟨c, scale - count⟩
    | none => m.search scale tie left (count + 1)

end Magnitude

/-- The same number without trailing zeros in the coefficient, as far as `fuel` steps go. -/
def Decimal.stripZeros : (fuel : Nat) → Decimal → Decimal
  | 0, d => d
  | fuel + 1, d =>
    if d.coefficient % 10 = 0 then stripZeros fuel ⟨d.coefficient / 10, d.exponent + 1⟩ else d

/-- The shortest decimal that identifies a value other than zero. Seventeen digits always do; if the
search ever failed, the exact value would be the answer. -/
def Magnitude.shortest (m : Magnitude) (tie : Tie) : Decimal :=
  match m.search m.scale tie 17 1 with
  | some d => d.stripZeros 17
  | none => ⟨m.units * 5 ^ (1074 : Nat), -1074⟩

end ItemStore.Number
