import ItemStore.Proofs.Number.SixPlaces

/-! # Texts of finite values

What is rounded is finite if its double lies below the overflow of the format. So the value nearest
to a 64-bit integer is finite, and a finite value that is written with six decimal places is read as
a finite one again, though not always as the same.
-/
namespace ItemStore.Number

attribute [local instance (2000)] instPowNat

namespace Binary64
variable {n d : Nat} {i : Int}

theorem isFinite_ofRatio (hd : 0 < d) (negative : Bool) (h : 2 * n < overflowUnits * d) :
    (ofRatio negative n d).isFinite = true := by
  rcases ofRatio_cases hd n negative with ⟨m, hfinite, -⟩ | ⟨-, hover⟩
  · rw [hfinite]
    rfl
  exfalso
  have hrounded : roundedUnits n d ≤ 2 ^ (53 : Nat) * 2 ^ gridExponent (n / d) :=
    Nat.mul_le_mul_right _ (rounded_bounds hd n).1
  obtain ⟨-, hgrid⟩ := (gridExponent_div_eq_iff hd).mp (rfl : gridExponent (n / d) = _)
  rcases hgrid with hfine | hcoarse
  · have hsmall : 2 ^ (53 : Nat) < overflowUnits := Nat.pow_lt_pow_right (by decide) (by decide)
    rw [hfine] at hrounded
    omega
  · have hdouble : overflowUnits * d ≤ 2 * n :=
      calc overflowUnits * d ≤ 2 ^ (53 : Nat) * 2 ^ gridExponent (n / d) * d :=
            Nat.mul_le_mul_right d (Nat.le_trans hover hrounded)
        _ = 2 * (2 ^ (52 : Nat) * (d * 2 ^ gridExponent (n / d))) := by grind
        _ ≤ 2 * n := Nat.mul_le_mul_left 2 hcoarse
    omega

/-- The value nearest to an integer of 64 bits, with or without a sign, is finite. -/
theorem isFinite_ofInt (hlow : int64Min ≤ i) (hhigh : i ≤ nat64Max) : (ofInt i).isFinite = true := by
  have hsize : i.natAbs ≤ 2 ^ (64 : Nat) := by
    unfold int64Min at hlow
    unfold nat64Max at hhigh
    omega
  rw [ofInt_eq]
  apply isFinite_ofRatio Nat.one_pos
  calc 2 * (i.natAbs * oneUnits) ≤ 2 * (2 ^ (64 : Nat) * oneUnits) :=
        Nat.mul_le_mul_left 2 (Nat.mul_le_mul_right _ hsize)
    _ = 2 ^ (65 + oneExponent) := by rw [← Nat.mul_assoc, oneUnits, Nat.pow_add]
    _ < overflowUnits * 1 := by
      rw [Nat.mul_one]
      exact Nat.pow_lt_pow_right (by decide) (by decide)

/-- A whole number is written with six decimal places as it is. -/
theorem roundDiv_of_whole {m : Magnitude} (h : oneExponent ≤ m.exponent) :
    roundDiv (m.units * 10 ^ (6 : Nat)) oneUnits .toEven * oneUnits = m.units * 10 ^ (6 : Nat) := by
  have hunits : m.units = m.mantissa * 2 ^ (m.exponent - oneExponent) * oneUnits := by
    rw [Magnitude.units, oneUnits, Nat.mul_assoc, ← Nat.pow_add, Nat.sub_add_cancel h]
  rw [hunits, Nat.mul_right_comm, roundDiv_mul oneUnits_pos]

/-- What is no whole number is far from the overflow, and so is the decimal next to it. -/
theorem roundDiv_lt_of_fraction {m : Magnitude} (h : m.exponent < oneExponent) :
    2 * (roundDiv (m.units * 10 ^ (6 : Nat)) oneUnits .toEven * oneUnits) <
      overflowUnits * 10 ^ (6 : Nat) := by
  have hexponent : 2 + (53 + m.exponent) ≤ overflowExponent := by
    unfold oneExponent at h
    unfold overflowExponent
    omega
  have hunits : 4 * m.units ≤ overflowUnits :=
    calc 4 * m.units ≤ 2 ^ (2 : Nat) * 2 ^ (53 + m.exponent) :=
          Nat.mul_le_mul_left 4 (Nat.le_of_lt m.units_lt_pow)
      _ = 2 ^ (2 + (53 + m.exponent)) := (Nat.pow_add 2 2 _).symm
      _ ≤ overflowUnits := Nat.pow_le_pow_right (by decide) hexponent
  have hone : oneUnits ≤ overflowUnits := Nat.pow_le_pow_right (by decide) (by decide)
  have hpos := overflowUnits_pos
  obtain ⟨hnear, -⟩ := roundDiv_near oneUnits_pos (m.units * 10 ^ (6 : Nat)) .toEven
  omega

theorem exists_readFloat?_trimmedText {x : Binary64} (h : x.isFinite = true) :
    ∃ y, readFloat? (trimmedText x) = some y ∧ y.isFinite = true := by
  match x, h with
  | .finite negative m, _ =>
    obtain ⟨p, htext, hsign, k, hplaces, hvalue⟩ := exists_numeral_trimmedText negative m
    rw [← htext]
    rcases Nat.lt_or_ge m.exponent oneExponent with hfraction | hwhole
    · refine ⟨_, p.readFloat?_text, isFinite_ofRatio (Nat.pow_pos (by decide)) _ ?_⟩
      have hlt := roundDiv_lt_of_fraction hfraction
      rw [← hvalue, ← hplaces, Nat.pow_add] at hlt
      refine Nat.lt_of_mul_lt_mul_right (a := 10 ^ k) ?_
      grind
    · refine ⟨.finite negative m, (p.readFloat?_eq_finite_iff hplaces).mpr ⟨hsign, ?_⟩, rfl⟩
      rw [hvalue, roundDiv_of_whole hwhole, ← Nat.mul_assoc]
      exact m.identifiedBy_quarters (by decide)

end Binary64

end ItemStore.Number
