import ItemStore.Number.Shortest
import ItemStore.Proofs.Number.NearestInteger

/-! # The nearest value of the format

A quotient is rounded on the grid on which it has 53 binary digits. From this follow the two facts
that everything else rests on: a quotient is rounded to a value exactly if it lies in the interval
that identifies the value, and a larger quotient is never rounded to a smaller value.
-/
namespace ItemStore.Number

attribute [local instance (2000)] instPowNat

/-- A quotient has 53 binary digits on its grid, or fewer on the finest one. -/
theorem gridExponent_div_eq_iff {n d g : Nat} (hd : 0 < d) :
    Binary64.gridExponent (n / d) = g ↔
      n < 2 ^ (53 : Nat) * (d * 2 ^ g) ∧ (g = 0 ∨ 2 ^ (52 : Nat) * (d * 2 ^ g) ≤ n) := by
  have hbelow : n / d < 2 ^ (53 + g) ↔ n < 2 ^ (53 : Nat) * (d * 2 ^ g) := by
    rw [Nat.div_lt_iff_lt_mul hd, Nat.pow_add, Nat.mul_assoc, Nat.mul_comm d]
  have habove : 2 ^ (52 + g) ≤ n / d ↔ 2 ^ (52 : Nat) * (d * 2 ^ g) ≤ n := by
    rw [Nat.le_div_iff_mul_le hd, Nat.pow_add, Nat.mul_assoc, Nat.mul_comm d]
  rw [← hbelow, ← habove, Binary64.gridExponent]
  by_cases hzero : n / d = 0
  · have hpow : 0 < 2 ^ (53 + g) := Nat.two_pow_pos _
    have hpow' : 0 < 2 ^ (52 + g) := Nat.two_pow_pos _
    rw [hzero, Nat.log2_zero]
    omega
  · rw [← Nat.log2_lt hzero, ← Nat.le_log2 hzero]
    omega

namespace Magnitude
variable {m other : Magnitude}

theorem units_pos_of_exponent (h : m.exponent ≠ 0) : 2 ^ (52 + m.exponent) ≤ m.units := by
  rw [units, Nat.pow_add]
  exact Nat.mul_le_mul_right _ (m.normal.resolve_left h)

theorem units_lt_pow (m : Magnitude) : m.units < 2 ^ (53 + m.exponent) := by
  rw [units, Nat.pow_add]
  exact Nat.mul_lt_mul_of_pos_right m.mantissa_lt (Nat.two_pow_pos _)

theorem units_injective (h : m.units = other.units) : m = other := by
  have hle {a b : Magnitude} (hab : a.units = b.units) : a.exponent ≤ b.exponent := by
    apply Nat.le_of_not_lt
    intro hlt
    have hlow := units_pos_of_exponent (m := a) (by omega)
    have hhigh := b.units_lt_pow
    have hpow : 2 ^ (53 + b.exponent) ≤ 2 ^ (52 + a.exponent) :=
      Nat.pow_le_pow_right (by decide) (by omega)
    omega
  have hexponent : m.exponent = other.exponent := Nat.le_antisymm (hle h) (hle h.symm)
  refine ext_fields ?_ hexponent
  rw [units, units, hexponent] at h
  exact Nat.eq_of_mul_eq_mul_right (Nat.two_pow_pos _) h

theorem identifiedBy_iff {n d : Nat} :
    m.identifiedBy n d = true ↔
      Within (m.mantissa % 2 == 0) (m.lowerEnd * d) n (m.upperEnd * d) := by
  unfold identifiedBy Within
  by_cases h : m.mantissa % 2 = 0 <;> simp [h]

theorem upperEnd_mul (m : Magnitude) (d : Nat) :
    m.upperEnd * d = 4 * (m.mantissa * (d * 2 ^ m.exponent)) + 2 * (d * 2 ^ m.exponent) := by
  rw [upperEnd, quarters, units]
  grind

/-- The gap to the next value below is half as wide as the gap to the next value above. -/
def Narrow (m : Magnitude) : Prop := m.mantissa = 2 ^ (52 : Nat) ∧ 0 < m.exponent

theorem lowerEnd_mul_of_wide (h : ¬ m.Narrow) (d : Nat) :
    m.lowerEnd * d = 4 * (m.mantissa * (d * 2 ^ m.exponent)) - 2 * (d * 2 ^ m.exponent) := by
  have hwidth : ¬(m.mantissa = 2 ^ (52 : Nat) ∧ 0 < m.exponent) := h
  rw [lowerEnd, quarters, units, if_neg hwidth, Nat.sub_mul]
  grind

theorem lowerEnd_mul_of_narrow (h : m.Narrow) (d : Nat) :
    m.lowerEnd * d = 4 * (m.mantissa * (d * 2 ^ m.exponent)) - d * 2 ^ m.exponent := by
  have hwidth : m.mantissa = 2 ^ (52 : Nat) ∧ 0 < m.exponent := h
  rw [lowerEnd, quarters, units, if_pos hwidth, Nat.sub_mul]
  grind

theorem step_le_of_odd (m : Magnitude) (h : m.mantissa % 2 = 1) (d : Nat) :
    d * 2 ^ m.exponent ≤ m.mantissa * (d * 2 ^ m.exponent) :=
  Nat.le_mul_of_pos_left _ (by omega)

/-- Where the gaps on both sides are equal, the quotients in the interval are those that are rounded
to the mantissa on the grid of the value. -/
theorem identifiedBy_iff_of_wide {n d : Nat} (hd : 0 < d) (h : ¬ m.Narrow) :
    m.identifiedBy (4 * n) d = true ↔
      roundDiv n (d * 2 ^ m.exponent) .toEven = m.mantissa := by
  have hstep : 0 < d * 2 ^ m.exponent := Nat.mul_pos hd (Nat.two_pow_pos _)
  rw [identifiedBy_iff, lowerEnd_mul_of_wide h, upperEnd_mul, roundDiv_eq_iff hstep]
  unfold Within
  by_cases heven : m.mantissa % 2 = 0
  · simp only [heven, beq_self_eq_true, if_true]
    omega
  · have hone : m.mantissa % 2 = 1 := by omega
    have hodd := m.step_le_of_odd hone d
    simp only [hone, show ((1 : Nat) == 0) = false from rfl, Bool.false_eq_true, if_false]
    omega

theorem identifiedBy_iff_of_narrow {n d : Nat} (h : m.Narrow) :
    m.identifiedBy (4 * n) d = true ↔
      4 * (2 ^ (52 : Nat) * (d * 2 ^ m.exponent)) ≤ 4 * n + d * 2 ^ m.exponent ∧
      2 * n ≤ 2 * (2 ^ (52 : Nat) * (d * 2 ^ m.exponent)) + d * 2 ^ m.exponent := by
  rw [identifiedBy_iff, lowerEnd_mul_of_narrow h, upperEnd_mul, h.1]
  unfold Within
  rw [if_pos (by decide)]
  omega

theorem units_mul (m : Magnitude) (d : Nat) : m.units * d = m.mantissa * (d * 2 ^ m.exponent) := by
  rw [units]
  grind

/-- Where the gaps on both sides are equal, what lies nearer to the value identifies it too. -/
theorem identifiedBy_of_nearer {a b d : Nat} (h : ¬ m.Narrow)
    (hidentified : m.identifiedBy (4 * a) d = true)
    (hnear : (b - m.units * d : Int).natAbs ≤ (a - m.units * d : Int).natAbs) :
    m.identifiedBy (4 * b) d = true := by
  have hunits : (m.units * d : Int) = (m.mantissa * (d * 2 ^ m.exponent) : Nat) := by
    rw [← units_mul, Int.natCast_mul]
  rw [hunits] at hnear
  rw [identifiedBy_iff, lowerEnd_mul_of_wide h, upperEnd_mul] at hidentified ⊢
  unfold Within at *
  by_cases heven : m.mantissa % 2 = 0
  · simp only [heven, beq_self_eq_true, if_true] at *
    omega
  · have hone : m.mantissa % 2 = 1 := by omega
    have hodd := m.step_le_of_odd hone d
    simp only [hone, show ((1 : Nat) == 0) = false from rfl, Bool.false_eq_true, if_false] at *
    omega

theorem identifiedBy_quarters (m : Magnitude) {d : Nat} (hd : 0 < d) :
    m.identifiedBy (m.quarters * d) d = true := by
  have hstep : 0 < d * 2 ^ m.exponent := Nat.mul_pos hd (Nat.two_pow_pos _)
  have hquarters : m.quarters * d = 4 * (m.mantissa * (d * 2 ^ m.exponent)) := by
    rw [quarters, Nat.mul_assoc, units_mul]
  rw [hquarters]
  by_cases h : m.Narrow
  · rw [identifiedBy_iff_of_narrow h, h.1]
    omega
  · rw [identifiedBy_iff_of_wide hd h]
    exact roundDiv_mul hstep m.mantissa .toEven

end Magnitude

namespace Binary64
variable {n m d g k : Nat} {negative sign : Bool}

theorem ofParts_eq_finite_iff {x : Magnitude} :
    ofParts negative k g = .finite sign x ↔
      negative = sign ∧ x.mantissa = k ∧ x.exponent = g := by
  unfold ofParts
  split
  · constructor
    · intro h
      cases h
      exact ⟨rfl, rfl, rfl⟩
    · rintro ⟨rfl, rfl, rfl⟩
      rfl
  · next hparts =>
    constructor
    · intro h
      cases h
    · rintro ⟨-, rfl, rfl⟩
      exact absurd ⟨x.mantissa_lt, x.normal, x.exponent_le⟩ hparts

/-- The mantissa before a carry. -/
def rounded (n d : Nat) : Nat := roundDiv n (d * 2 ^ gridExponent (n / d)) .toEven

theorem ofRatio_eq (negative : Bool) (n d : Nat) :
    ofRatio negative n d =
      if rounded n d = 2 ^ (53 : Nat) then
        ofParts negative (2 ^ (52 : Nat)) (gridExponent (n / d) + 1)
      else ofParts negative (rounded n d) (gridExponent (n / d)) := rfl

theorem rounded_bounds (hd : 0 < d) (n : Nat) :
    rounded n d ≤ 2 ^ (53 : Nat) ∧
      (gridExponent (n / d) = 0 ∨ 2 ^ (52 : Nat) ≤ rounded n d) := by
  obtain ⟨hbelow, habove⟩ := (gridExponent_div_eq_iff hd).mp (rfl : gridExponent (n / d) = _)
  have hstep : 0 < d * 2 ^ gridExponent (n / d) := Nat.mul_pos hd (Nat.two_pow_pos _)
  constructor
  · rw [rounded, ← roundDiv_mul hstep (2 ^ (53 : Nat)) .toEven]
    exact roundDiv_mono hstep (Nat.le_of_lt hbelow)
  · refine habove.imp_right fun habove => ?_
    rw [rounded, ← roundDiv_mul hstep (2 ^ (52 : Nat)) .toEven]
    exact roundDiv_mono hstep habove

/-! ### Which quotients are rounded to a value -/

theorem ofRatio_of_grid {x : Magnitude} (negative : Bool)
    (hgrid : gridExponent (n / d) = x.exponent)
    (hround : roundDiv n (d * 2 ^ x.exponent) .toEven = x.mantissa) :
    ofRatio negative n d = .finite negative x := by
  have hrounded : rounded n d = x.mantissa := by rw [rounded, hgrid, hround]
  rw [ofRatio_eq, hrounded, hgrid, if_neg (Nat.ne_of_lt x.mantissa_lt)]
  exact ofParts_eq_finite_iff.mpr ⟨rfl, rfl, rfl⟩

/-- What is rounded up to a power of two may come from the finer grid below it. -/
theorem ofRatio_of_carry {x : Magnitude} (negative : Bool) (hx : x.mantissa = 2 ^ (52 : Nat))
    (hgrid : gridExponent (n / d) + 1 = x.exponent) (hround : rounded n d = 2 ^ (53 : Nat)) :
    ofRatio negative n d = .finite negative x := by
  rw [ofRatio_eq, if_pos hround]
  exact ofParts_eq_finite_iff.mpr ⟨rfl, hx, hgrid.symm⟩

theorem identifiedBy_of_ofRatio {x : Magnitude} (hd : 0 < d)
    (h : ofRatio negative n d = .finite sign x) : x.identifiedBy (4 * n) d = true := by
  obtain ⟨hbelow, habove⟩ := (gridExponent_div_eq_iff hd).mp (rfl : gridExponent (n / d) = _)
  have hstep : 0 < d * 2 ^ gridExponent (n / d) := Nat.mul_pos hd (Nat.two_pow_pos _)
  rw [ofRatio_eq] at h
  split at h
  · next hcarry =>
    obtain ⟨-, hmantissa, hexponent⟩ := ofParts_eq_finite_iff.mp h
    have hdouble : d * 2 ^ x.exponent = 2 * (d * 2 ^ gridExponent (n / d)) := by
      rw [hexponent, Nat.pow_succ]
      grind
    have hround := ((roundDiv_eq_iff hstep).mp hcarry).le
    rw [Magnitude.identifiedBy_iff_of_narrow ⟨hmantissa, by omega⟩, hdouble]
    omega
  · obtain ⟨-, hmantissa, hexponent⟩ := ofParts_eq_finite_iff.mp h
    rw [← hexponent] at habove hstep
    have hround : roundDiv n (d * 2 ^ x.exponent) .toEven = x.mantissa := by
      rw [hmantissa, rounded, hexponent]
    by_cases hnarrow : x.Narrow
    · have hupper := ((roundDiv_eq_iff hstep).mp (hround.trans hnarrow.1)).le
      have hlower := habove.resolve_left (Nat.ne_of_gt hnarrow.2)
      rw [Magnitude.identifiedBy_iff_of_narrow hnarrow]
      omega
    · exact (Magnitude.identifiedBy_iff_of_wide hd hnarrow).mpr hround

theorem ofRatio_of_identifiedBy {x : Magnitude} (hd : 0 < d) (negative : Bool)
    (h : x.identifiedBy (4 * n) d = true) : ofRatio negative n d = .finite negative x := by
  have hstep : 0 < d * 2 ^ x.exponent := Nat.mul_pos hd (Nat.two_pow_pos _)
  by_cases hnarrow : x.Narrow
  · obtain ⟨hlower, hupper⟩ := (Magnitude.identifiedBy_iff_of_narrow hnarrow).mp h
    obtain ⟨hmantissa, hexponent⟩ := hnarrow
    by_cases habove : 2 ^ (52 : Nat) * (d * 2 ^ x.exponent) ≤ n
    · apply ofRatio_of_grid
      · exact (gridExponent_div_eq_iff hd).mpr ⟨by omega, .inr habove⟩
      · rw [hmantissa, roundDiv_eq_iff hstep, Within, if_pos (by decide)]
        omega
    · obtain ⟨e, he⟩ : ∃ e, x.exponent = e + 1 := ⟨x.exponent - 1, by omega⟩
      have hdouble : d * 2 ^ x.exponent = 2 * (d * 2 ^ e) := by
        rw [he, Nat.pow_succ]
        grind
      have hfine : 0 < d * 2 ^ e := Nat.mul_pos hd (Nat.two_pow_pos _)
      rw [hdouble] at hlower habove
      have hgrid : gridExponent (n / d) = e :=
        (gridExponent_div_eq_iff hd).mpr ⟨by omega, .inr (by omega)⟩
      apply ofRatio_of_carry negative hmantissa
      · rw [hgrid, he]
      · rw [rounded, hgrid, roundDiv_eq_iff hfine, Within, if_pos (by decide)]
        omega
  · have hround := (Magnitude.identifiedBy_iff_of_wide hd hnarrow).mp h
    refine ofRatio_of_grid negative ((gridExponent_div_eq_iff hd).mpr ⟨?_, ?_⟩) hround
    · apply Nat.lt_of_not_le
      intro hle
      have hmono := roundDiv_mono hstep hle
      rw [roundDiv_mul hstep, hround] at hmono
      exact Nat.not_lt.mpr hmono x.mantissa_lt
    · by_cases hexponent : x.exponent = 0
      · exact .inl hexponent
      · right
        apply Nat.le_of_not_lt
        intro hlt
        have hmono := roundDiv_mono hstep (Nat.le_of_lt hlt)
        rw [roundDiv_mul hstep, hround] at hmono
        have hmantissa := Nat.le_antisymm hmono (x.normal.resolve_left hexponent)
        exact hnarrow ⟨hmantissa, Nat.pos_of_ne_zero hexponent⟩

/-- A quotient is rounded to a finite value exactly if it lies in the interval of the value. -/
theorem ofRatio_eq_finite_iff {x : Magnitude} (hd : 0 < d) :
    ofRatio negative n d = .finite negative x ↔ x.identifiedBy (4 * n) d = true :=
  ⟨identifiedBy_of_ofRatio hd, ofRatio_of_identifiedBy hd negative⟩

end Binary64

end ItemStore.Number
