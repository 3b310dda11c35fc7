import ItemStore.Proofs.Number.ValueOrder

/-! # The value of a decimal

A decimal is rounded like any other quotient. That very large and very small ones are not computed
makes no difference, as they lie beyond the largest value and below half of the smallest one.
-/
namespace ItemStore.Number

attribute [local instance (2000)] instPowNat

namespace Magnitude
variable {m : Magnitude} {n d k : Nat}

/-- The terms in which a quotient is written do not matter. -/
theorem identifiedBy_mul (hk : 0 < k) : m.identifiedBy (n * k) (d * k) = m.identifiedBy n d := by
  rw [Bool.eq_iff_iff, identifiedBy_iff, identifiedBy_iff, ← Nat.mul_assoc, ← Nat.mul_assoc,
    within_mul_iff hk]

theorem upperEnd_lt (m : Magnitude) : m.upperEnd < 4 * Binary64.overflowUnits := by
  have hmantissa : 4 * m.mantissa + 2 < 4 * 2 ^ (53 : Nat) := by
    have := m.mantissa_lt
    omega
  have hexponent : 53 + m.exponent ≤ Binary64.overflowExponent := by
    have := m.exponent_le
    unfold Binary64.overflowExponent
    omega
  calc m.upperEnd = (4 * m.mantissa + 2) * 2 ^ m.exponent := by
        rw [upperEnd, quarters, units, Nat.add_mul, Nat.mul_assoc]
    _ < 4 * 2 ^ (53 : Nat) * 2 ^ m.exponent :=
        Nat.mul_lt_mul_of_pos_right hmantissa (Nat.two_pow_pos _)
    _ = 4 * 2 ^ (53 + m.exponent) := by rw [Nat.mul_assoc, ← Nat.pow_add]
    _ ≤ 4 * Binary64.overflowUnits :=
        Nat.mul_le_mul_left 4 (Nat.pow_le_pow_right (by decide) hexponent)

theorem identifiedBy_zero_iff : Magnitude.zero.identifiedBy n d = true ↔ n ≤ 2 * d := by
  have hlower : Magnitude.zero.lowerEnd = 0 := by decide
  have hupper : Magnitude.zero.upperEnd = 2 := by decide
  rw [identifiedBy_iff, hlower, hupper, Within, if_pos (by decide)]
  omega

end Magnitude

namespace Binary64
variable {n d : Nat}

theorem ofRatio_of_overflow (hd : 0 < d) (negative : Bool) (h : overflowUnits * d ≤ n) :
    ofRatio negative n d = .infinite negative := by
  rcases ofRatio_cases hd n negative with ⟨m, hm, -⟩ | ⟨hm, -⟩
  · exfalso
    have hle := (Magnitude.identifiedBy_iff.mp (identifiedBy_of_ofRatio hd hm)).le.2
    have hlt := Nat.mul_lt_mul_of_pos_right m.upperEnd_lt hd
    rw [Nat.mul_assoc] at hlt
    omega
  · exact hm

theorem ofRatio_of_underflow (hd : 0 < d) (negative : Bool) (h : 2 * n ≤ d) :
    ofRatio negative n d = .finite negative .zero := by
  apply ofRatio_of_identifiedBy hd
  rw [Magnitude.identifiedBy_zero_iff]
  omega

theorem two_pow_le_ten_pow (k : Nat) : 2 ^ (3 * k) ≤ 10 ^ k := by
  rw [Nat.pow_mul]
  exact Nat.pow_le_pow_left (by decide) k

theorem ofDecimal_eq_ofRatio (negative : Bool) (coefficient : Nat) (exponent : Int) :
    ofDecimal negative coefficient exponent =
      ofRatio negative (coefficient * 10 ^ exponent.toNat * oneUnits) (10 ^ (-exponent).toNat) := by
  have hten (k : Nat) : 0 < 10 ^ k := Nat.pow_pos (by decide)
  rw [ofDecimal]
  split
  · next hzero =>
    rw [hzero, Nat.zero_mul, Nat.zero_mul, ofRatio_of_underflow (hten _) negative (Nat.zero_le _)]
  · next hzero =>
    split
    · next hlarge =>
      have hneg : (-exponent).toNat = 0 := by omega
      rw [hneg, ofRatio_of_overflow (hten 0)]
      calc overflowUnits * 10 ^ (0 : Nat) = 2 ^ overflowExponent := by
            rw [Nat.pow_zero, Nat.mul_one, overflowUnits]
        _ ≤ 2 ^ (3 * exponent.toNat + oneExponent) := by
          apply Nat.pow_le_pow_right (by decide)
          unfold overflowExponent oneExponent
          omega
        _ = 2 ^ (3 * exponent.toNat) * oneUnits := Nat.pow_add 2 _ _
        _ ≤ 10 ^ exponent.toNat * oneUnits := Nat.mul_le_mul_right _ (two_pow_le_ten_pow _)
        _ ≤ coefficient * 10 ^ exponent.toNat * oneUnits :=
          Nat.mul_le_mul_right _ (Nat.le_mul_of_pos_left _ (Nat.pos_of_ne_zero hzero))
    · split
      · next hsmall =>
        have hpos : exponent.toNat = 0 := by omega
        rw [hpos, Nat.pow_zero, Nat.mul_one, ofRatio_of_underflow (hten _)]
        calc 2 * (coefficient * oneUnits) ≤ 2 * (2 ^ (coefficient.log2 + 1) * oneUnits) :=
              Nat.mul_le_mul_left 2 (Nat.mul_le_mul_right _ (Nat.le_of_lt Nat.lt_log2_self))
          _ = 2 ^ (1 + (coefficient.log2 + 1 + oneExponent)) := by
              rw [oneUnits, ← Nat.pow_add, Nat.pow_add 2 1, Nat.pow_one]
          _ ≤ 2 ^ (3 * (-exponent).toNat) := by
              apply Nat.pow_le_pow_right (by decide)
              unfold oneExponent
              omega
          _ ≤ 10 ^ (-exponent).toNat := two_pow_le_ten_pow _
      · split
        · next hsign =>
          have hneg : (-exponent).toNat = 0 := by omega
          rw [hneg, Nat.pow_zero, oneUnits, oneExponent]
        · next hsign =>
          have hpos : exponent.toNat = 0 := by omega
          rw [hpos, Nat.pow_zero, Nat.mul_one, oneUnits, oneExponent]

end Binary64

end ItemStore.Number
