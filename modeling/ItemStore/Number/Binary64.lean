import ItemStore.Number.Rounding

/-! # Numbers of the 64-bit binary format

Every finite value of the format is a whole number of units of 2^-1074, so sums and comparisons are
done on integers and each result is rounded once, to nearest, a tie going to the even neighbour.
-/
namespace ItemStore.Number

-- Powers are those of the core library also where algebra is imported.
attribute [local instance (2000)] instPowNat

/-- The size of a finite value: `mantissa * 2 ^ exponent` units of 2^-1074, in the one form that
the format has for it. -/
structure Magnitude where
  mantissa : Nat
  exponent : Nat
  mantissa_lt : mantissa < 2 ^ (53 : Nat)
  normal : exponent = 0 ∨ 2 ^ (52 : Nat) ≤ mantissa
  exponent_le : exponent ≤ 2045
  deriving DecidableEq, Repr

namespace Magnitude

def units (m : Magnitude) : Nat := m.mantissa * 2 ^ m.exponent

def zero : Magnitude := ⟨0, 0, by decide, .inl rfl, by decide⟩

def isZero (m : Magnitude) : Bool := m.mantissa == 0

theorem ext_fields {a b : Magnitude} (hm : a.mantissa = b.mantissa) (he : a.exponent = b.exponent) :
    a = b := by
  cases a; cases b; simp_all

theorem eq_zero_of_isZero {m : Magnitude} (h : m.isZero = true) : m = zero := by
  have hm : m.mantissa = 0 := by simpa [isZero] using h
  have he := m.normal
  exact ext_fields hm (by rcases he with he | he <;> simp_all [zero])

end Magnitude

/-- A value of the format. The sign of a zero is kept, and there is one value that is no number. -/
inductive Binary64
  | nan
  | infinite (negative : Bool)
  | finite (negative : Bool) (magnitude : Magnitude)
  deriving DecidableEq, Repr

namespace Binary64

def zero : Binary64 := .finite false .zero

instance : Inhabited Binary64 := ⟨zero⟩

/-- The value with these parts, infinite where the exponent is too large for the format. -/
def ofParts (negative : Bool) (mantissa exponent : Nat) : Binary64 :=
  if h : mantissa < 2 ^ (53 : Nat) ∧ (exponent = 0 ∨ 2 ^ (52 : Nat) ≤ mantissa) ∧
      exponent ≤ 2045 then
    .finite negative ⟨mantissa, exponent, h.1, h.2.1, h.2.2⟩
  else .infinite negative

/-- The exponent of the grid on which a number of that many whole units is rounded. -/
def gridExponent (units : Nat) : Nat := units.log2 - 52

/-- The value nearest to `n / d` units of 2^-1074. -/
def ofRatio (negative : Bool) (n d : Nat) : Binary64 :=
  let exponent := gridExponent (n / d)
  let mantissa := roundDiv n (d * 2 ^ exponent) .toEven
  if mantissa = 2 ^ (53 : Nat) then ofParts negative (2 ^ (52 : Nat)) (exponent + 1)
  else ofParts negative mantissa exponent

def ofUnits (units : Int) : Binary64 := ofRatio (units < 0) units.natAbs 1

/-- The value nearest to an integer. -/
def ofInt (i : Int) : Binary64 := ofRatio (i < 0) (i.natAbs * 2 ^ (1074 : Nat)) 1

/-- The value nearest to `coefficient * 10 ^ exponent`. Beyond the two bounds the answer is infinite
and zero whatever the coefficient, so no large power is taken there. -/
def ofDecimal (negative : Bool) (coefficient : Nat) (exponent : Int) : Binary64 :=
  if coefficient = 0 then .finite negative .zero
  else if 400 < exponent then .infinite negative
  else if exponent < -(400 + coefficient.log2 : Int) then .finite negative .zero
  else if 0 ≤ exponent then
    ofRatio negative (coefficient * 10 ^ exponent.toNat * 2 ^ (1074 : Nat)) 1
  else ofRatio negative (coefficient * 2 ^ (1074 : Nat)) (10 ^ (-exponent).toNat)

def isFinite : Binary64 → Bool
  | .finite _ _ => true
  | _ => false

def isNaN : Binary64 → Bool
  | .nan => true
  | _ => false

/-- A zero of either sign. -/
def isZero : Binary64 → Bool
  | .finite _ m => m.isZero
  | _ => false

def signed (negative : Bool) (units : Nat) : Int := if negative then -units else units

/-- The order of two values, absent where one of them is no number. The two zeros are equal. -/
def compare? : Binary64 → Binary64 → Option Ordering
  | .nan, _ => none
  | _, .nan => none
  | .infinite a, .infinite b => some (compare (!a) (!b))
  | .infinite a, .finite _ _ => some (if a then .lt else .gt)
  | .finite _ _, .infinite b => some (if b then .gt else .lt)
  | .finite a m, .finite b n => some (compare (signed a m.units) (signed b n.units))

def add : Binary64 → Binary64 → Binary64
  | .nan, _ => .nan
  | _, .nan => .nan
  | .infinite a, .infinite b => if a = b then .infinite a else .nan
  | .infinite a, .finite _ _ => .infinite a
  | .finite _ _, .infinite b => .infinite b
  | .finite a m, .finite b n =>
    let sum := signed a m.units + signed b n.units
    if sum = 0 then .finite (a && b) .zero else ofUnits sum

end Binary64

end ItemStore.Number
