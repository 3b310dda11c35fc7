import ItemStore.Proofs.Number.Numerals

/-! # Texts that are read back

The shortest decimal lies in the interval of its value, and so the text of a value in positional
form is read as that value again. Of an integer up to 2^53 it is the digits.
-/
namespace ItemStore.Number

attribute [local instance (2000)] instPowNat

namespace Decimal
variable {d : Decimal} {m : Magnitude}

/-- The decimal is rounded to the value, whatever the sign. -/
def Identifies (d : Decimal) (m : Magnitude) : Prop :=
  ∀ negative, Binary64.ofDecimal negative d.coefficient d.exponent = .finite negative m

theorem identifies_iff :
    d.Identifies m ↔
      m.identifiedBy (4 * (d.coefficient * 10 ^ d.exponent.toNat * Binary64.oneUnits))
        (10 ^ (-d.exponent).toNat) = true := by
  have hten : 0 < 10 ^ (-d.exponent).toNat := Nat.pow_pos (by decide)
  simp only [Identifies, Binary64.ofDecimal_eq_ofRatio, Binary64.ofRatio_eq_finite_iff hten,
    forall_const]

theorem identifies_shift (c : Nat) (e : Int) :
    Identifies ⟨c, e + 1⟩ m ↔ Identifies ⟨c * 10, e⟩ m := by
  simp only [identifies_iff]
  by_cases he : 0 ≤ e
  · have hpower : (e + 1).toNat = e.toNat + 1 := by omega
    have hplaces : (-(e + 1)).toNat = 0 ∧ (-e).toNat = 0 := by omega
    rw [hpower, hplaces.1, hplaces.2, Nat.pow_succ, Nat.mul_comm (10 ^ e.toNat),
      ← Nat.mul_assoc c]
  · have hpower : (e + 1).toNat = 0 ∧ e.toNat = 0 := by omega
    have hplaces : (-e).toNat = (-(e + 1)).toNat + 1 := by omega
    rw [hpower.1, hpower.2, hplaces, Nat.pow_succ, ← Magnitude.identifiedBy_mul (k := 10) (by decide)]
    simp only [Nat.pow_zero, Nat.mul_one]
    rw [Nat.mul_right_comm c, Nat.mul_assoc 4]

theorem identifies_stripZeros (h : d.Identifies m) (fuel : Nat) :
    (d.stripZeros fuel).Identifies m := by
  induction fuel generalizing d with
  | zero => exact h
  | succ fuel ih =>
    rw [stripZeros]
    split
    · next hzero =>
      apply ih
      have hcoefficient : d.coefficient / 10 * 10 = d.coefficient := by omega
      rw [identifies_shift, hcoefficient]
      exact h
    · exact h

theorem exponent_le_stripZeros (d : Decimal) (fuel : Nat) :
    d.exponent ≤ (d.stripZeros fuel).exponent := by
  induction fuel generalizing d with
  | zero => exact Int.le_refl _
  | succ fuel ih =>
    rw [stripZeros]
    split
    · exact Int.le_trans (Int.le_of_lt (Int.lt_succ _)) (ih _)
    · exact Int.le_refl _

theorem text_ofScaled_of_neg (h : ¬ 0 ≤ d.exponent) (negative : Bool) :
    (PlainNumeral.ofScaled negative d.coefficient (-d.exponent).toNat).text =
      Binary64.signText negative ++ d.positionalText false := by
  have hplaces : (-d.exponent).toNat ≠ 0 := by omega
  have hzeros (k : Nat) : (zeros k).length = k := List.length_replicate
  simp only [PlainNumeral.ofScaled, PlainNumeral.text_ofDigits, positionalText, if_neg h, if_neg hplaces]
  generalize natText d.coefficient = digits
  generalize (-d.exponent).toNat = places at *
  split
  · next hinside =>
    have hnone : places + 1 - digits.length = 0 := by omega
    simp [hnone, zeros]
  · next hbefore =>
    have hsome : places + 1 - digits.length = places - digits.length + 1 := by omega
    have hone : (zeros (places + 1 - digits.length) ++ digits).length - places = 1 := by
      rw [List.length_append, hzeros]
      omega
    rw [hone, hsome]
    simp [zeros, List.replicate_succ]

/-- In positional form a decimal is a numeral of the same number. -/
theorem exists_numeral (d : Decimal) (negative : Bool) :
    ∃ p : PlainNumeral, p.text = Binary64.signText negative ++ d.positionalText false ∧
      p.negative = negative ∧ p.coefficient = d.coefficient * 10 ^ d.exponent.toNat ∧
      p.places = (-d.exponent).toNat := by
  by_cases hexponent : 0 ≤ d.exponent
  · have hplaces : (-d.exponent).toNat = 0 := by omega
    have hzeros : (zeros d.exponent.toNat).length = d.exponent.toNat := List.length_replicate
    refine ⟨⟨negative, natText d.coefficient ++ zeros d.exponent.toNat, [], ?_, ?_, by simp⟩,
      ?_, rfl, ?_, hplaces.symm⟩
    · simp [natText_ne_nil]
    · intro c hc
      rcases List.mem_append.mp hc with hc | hc
      · exact isDigit_of_mem_natText hc
      · exact isDigit_of_mem_zeros hc
    · simp [PlainNumeral.text, PlainNumeral.body, positionalText, hexponent]
    · simp [PlainNumeral.coefficient, natOfDigits_append, hzeros]
  · have hpower : d.exponent.toNat = 0 := by omega
    refine ⟨.ofScaled negative d.coefficient (-d.exponent).toNat,
      text_ofScaled_of_neg hexponent negative, rfl, ?_, PlainNumeral.places_ofScaled _ _ _⟩
    rw [PlainNumeral.coefficient_ofScaled, hpower, Nat.pow_zero, Nat.mul_one]

theorem readFloat?_positionalText (d : Decimal) (negative : Bool) :
    readFloat? (Binary64.signText negative ++ d.positionalText false) =
      some (Binary64.ofDecimal negative d.coefficient d.exponent) := by
  obtain ⟨p, htext, hnegative, hcoefficient, hplaces⟩ := d.exists_numeral negative
  rw [← htext, p.readFloat?_text, hnegative, hcoefficient, hplaces, Binary64.ofDecimal_eq_ofRatio]

end Decimal

namespace Magnitude
variable {m : Magnitude} {tie : Tie}

theorem two_pow_quarterExponent : 2 ^ (1076 : Nat) = 4 * Binary64.oneUnits := by
  rw [show (1076 : Nat) = 2 + Binary64.oneExponent from rfl, Nat.pow_add, Binary64.oneUnits]

/-- What is found on a grid lies in the interval: of the two neighbours of the value one that does,
or the nearer one where both do. -/
theorem identifies_of_onGrid? {exponent : Int} {c : Nat} (h : m.onGrid? exponent tie = some c) :
    Decimal.Identifies ⟨c, exponent⟩ m := by
  have hstep (k : Nat) : 4 * (k * 10 ^ exponent.toNat * Binary64.oneUnits) =
      k * (10 ^ exponent.toNat * 2 ^ (1076 : Nat)) := by
    rw [two_pow_quarterExponent]
    grind
  rw [Decimal.identifies_iff, hstep]
  simp only [onGrid?] at h
  clear hstep
  generalize 10 ^ exponent.toNat * 2 ^ (1076 : Nat) = step at *
  split at h
  · next hlow hhigh =>
    cases h
    rcases roundDiv_cases (m.quarters * 10 ^ (-exponent).toNat) step tie with
      ⟨hround, -⟩ | ⟨hround, -⟩
    · rw [hround]
      exact hlow
    · rw [hround]
      exact hhigh
  · next hlow hhigh =>
    cases h
    exact hlow
  · next hlow hhigh =>
    cases h
    exact hhigh
  · cases h

theorem identifies_of_search {scale : Int} {left count : Nat} {d : Decimal}
    (h : m.search scale tie left count = some d) : d.Identifies m := by
  induction left generalizing count with
  | zero => cases h
  | succ left ih =>
    rw [search] at h
    split at h
    · next hgrid =>
      cases h
      exact identifies_of_onGrid? hgrid
    · exact ih h

theorem identifies_exact (m : Magnitude) :
    Decimal.Identifies ⟨m.units * 5 ^ Binary64.oneExponent, -Binary64.oneExponent⟩ m := by
  have hpower : (-(Binary64.oneExponent : Int)).toNat = 0 := by omega
  have hplaces : (- -(Binary64.oneExponent : Int)).toNat = Binary64.oneExponent := by omega
  have hexact : 4 * (m.units * 5 ^ Binary64.oneExponent * 10 ^ (0 : Nat) * Binary64.oneUnits) =
      m.quarters * 10 ^ Binary64.oneExponent := by
    rw [quarters, Binary64.oneUnits, Nat.pow_zero, Nat.mul_one, Nat.mul_assoc m.units, ← Nat.mul_pow,
      ← Nat.mul_assoc]
  rw [Decimal.identifies_iff, hpower, hplaces, hexact]
  exact m.identifiedBy_quarters (Nat.pow_pos (by decide))

theorem identifies_shortest (m : Magnitude) (tie : Tie) : (m.shortest tie).Identifies m := by
  rw [shortest]
  split
  · next hsearch => exact Decimal.identifies_stripZeros (identifies_of_search hsearch) 17
  · have hone : (1074 : Nat) = Binary64.oneExponent := rfl
    have hneg : (-1074 : Int) = -Binary64.oneExponent := rfl
    rw [hneg, hone]
    exact m.identifies_exact

end Magnitude

namespace Binary64

theorem readFloat?_text (x : Binary64) : readFloat? (x.text .plain) = some x := by
  cases x with
  | nan => rfl
  | infinite negative => cases negative <;> rfl
  | finite negative m =>
    rw [text]
    split
    · next hzero =>
      rw [Magnitude.eq_zero_of_isZero hzero]
      exact Decimal.readFloat?_positionalText ⟨0, 0⟩ negative
    · exact (Decimal.readFloat?_positionalText _ negative).trans
        (congrArg some (m.identifies_shortest _ negative))

end Binary64

/-! ### Integers -/

namespace Magnitude
variable {m : Magnitude} {k : Nat}

theorem log2_units (hunits : m.units = k * Binary64.oneUnits) (hpos : 0 < k) :
    m.units.log2 = k.log2 + Binary64.oneExponent := by
  have hone := Binary64.oneUnits_pos
  have hunitspos : m.units ≠ 0 := by
    rw [hunits]
    exact Nat.ne_of_gt (Nat.mul_pos hpos hone)
  rw [Nat.log2_eq_iff hunitspos, hunits, Nat.add_right_comm, Nat.pow_add, Nat.pow_add]
  exact ⟨Nat.mul_le_mul_right _ (Nat.log2_self_le (Nat.ne_of_gt hpos)),
    Nat.mul_lt_mul_of_pos_right Nat.lt_log2_self hone⟩

/-- An integer has at least one digit before the point, and below 2^54 at most seventeen. -/
theorem scale_bounds (hunits : m.units = k * Binary64.oneUnits) (hpos : 0 < k)
    (hlt : k < 2 ^ (54 : Nat)) : 1 ≤ m.scale ∧ m.scale ≤ 17 := by
  have hlog : k.log2 < 54 := (Nat.log2_lt (Nat.ne_of_gt hpos)).mpr hlt
  have hwhole : (m.units.log2 : Int) - 1074 = k.log2 := by
    rw [log2_units hunits hpos]
    unfold Binary64.oneExponent
    omega
  have hnotbelow : m.belowPower 0 = false := by
    have hle : 1 * Binary64.oneUnits ≤ k * Binary64.oneUnits := Nat.mul_le_mul_right _ hpos
    rw [← hunits, Binary64.oneUnits, Binary64.oneExponent] at hle
    refine decide_eq_false (Nat.not_lt.mpr ?_)
    rwa [Int.toNat_zero, Int.neg_zero, Int.toNat_zero, Nat.pow_zero, Nat.mul_one]
  rw [scale, hwhole, Int.fdiv_eq_ediv_of_nonneg _ (by decide)]
  by_cases hzero : (k.log2 : Int) * 30103 / 100000 = 0
  · rw [hzero, hnotbelow, if_neg Bool.false_ne_true]
    split <;> decide
  · split
    · omega
    · split <;> omega

/-- The search ends at the latest on the grid of the integers, if a decimal is found there. -/
theorem exists_search_of_onGrid? (scale : Int) (left count : Nat) {tie : Tie}
    (hgrid : (m.onGrid? 0 tie).isSome = true) (hcount : count ≤ scale) (hleft : scale < count + left) :
    ∃ d, m.search scale tie left count = some d ∧ 0 ≤ d.exponent := by
  induction left generalizing count with
  | zero => omega
  | succ left ih =>
    rw [search]
    cases hfound : m.onGrid? (scale - count) tie with
    | some c => exact ⟨_, rfl, Int.sub_nonneg_of_le hcount⟩
    | none =>
      have hne : scale ≠ count := by
        rintro rfl
        rw [Int.sub_self] at hfound
        simp [hfound] at hgrid
      exact ih (count + 1) (by omega) (by omega)

theorem onGrid?_zero_isSome (hunits : m.units = k * Binary64.oneUnits) (tie : Tie) :
    (m.onGrid? 0 tie).isSome = true := by
  have hstep : 0 < 10 ^ (0 : Nat) * 2 ^ (1076 : Nat) := by
    have hone := Binary64.oneUnits_pos
    rw [two_pow_quarterExponent]
    omega
  have hquarters : m.quarters * 10 ^ (0 : Nat) = k * (10 ^ (0 : Nat) * 2 ^ (1076 : Nat)) := by
    rw [quarters, hunits, two_pow_quarterExponent]
    grind
  have hself := m.identifiedBy_quarters (Nat.pow_pos (by decide) : 0 < 10 ^ (0 : Nat))
  simp only [onGrid?, Int.neg_zero, Int.toNat_zero]
  generalize 10 ^ (0 : Nat) * 2 ^ (1076 : Nat) = step at *
  rw [hquarters] at hself
  rw [hquarters, Nat.mul_div_cancel k hstep, hself]
  split <;> first | rfl | contradiction

theorem exponent_shortest_nonneg (hunits : m.units = k * Binary64.oneUnits) (hpos : 0 < k)
    (hlt : k < 2 ^ (54 : Nat)) (tie : Tie) : 0 ≤ (m.shortest tie).exponent := by
  obtain ⟨hlow, hhigh⟩ := scale_bounds hunits hpos hlt
  obtain ⟨d, hd, hexponent⟩ := exists_search_of_onGrid? m.scale 17 1
    (onGrid?_zero_isSome hunits tie) hlow (by omega)
  rw [shortest, hd]
  exact Int.le_trans hexponent (d.exponent_le_stripZeros 17)

end Magnitude

namespace Binary64
variable {i : Int}

/-- The shortest decimal of an integer below 2^53 is the integer: it is a whole number, and no other
whole number is rounded to the same value. -/
theorem coefficient_shortest_mul {m : Magnitude} {k : Nat} (hunits : m.units = k * oneUnits)
    (hpos : 0 < k) (hlt : k < 2 ^ (53 : Nat)) (tie : Tie) :
    (m.shortest tie).coefficient * 10 ^ (m.shortest tie).exponent.toNat = k := by
  have hidentifies := m.identifies_shortest tie false
  have hexponent := Magnitude.exponent_shortest_nonneg hunits hpos (by omega) tie
  have hplaces : (-(m.shortest tie).exponent).toNat = 0 := by omega
  obtain ⟨m', hm', hunits'⟩ := ofInt_of_natAbs_le (i := k) (by omega)
  obtain rfl : m' = m := Magnitude.units_injective (by rw [hunits', hunits, Int.natAbs_natCast])
  rw [ofDecimal_eq_ofRatio, hplaces, Nat.pow_zero] at hidentifies
  generalize (m'.shortest tie).coefficient * 10 ^ (m'.shortest tie).exponent.toNat = c at *
  have hsame : ofInt k = ofInt c := by
    have hk : ¬ (k : Int) < 0 := by omega
    have hc : ¬ (c : Int) < 0 := by omega
    rw [hm', ofInt_eq, Int.natAbs_natCast, decide_eq_false hk, decide_eq_false hc]
    exact hidentifies.symm
  have heq := eq_of_ofInt_eq_of_lt (by omega) hsame
  omega

/-- An integer of up to 2^53 is written with its digits. -/
theorem text_plain_ofInt (h : i.natAbs ≤ 2 ^ (53 : Nat)) : (ofInt i).text .plain = intText i := by
  have hsign : intText i = signText (i < 0) ++ natText i.natAbs := by
    by_cases hi : i < 0 <;> simp [intText, signText, hi]
  by_cases htop : i.natAbs = 2 ^ (53 : Nat)
  · rcases Int.natAbs_eq i with hi | hi <;> rw [htop] at hi <;> subst hi <;> decide +kernel
  obtain ⟨m, hm, hunits⟩ := ofInt_of_natAbs_le h
  rw [hm, text, hsign]
  congr 1
  by_cases hzero : i.natAbs = 0
  · have hm0 : m = .zero := Magnitude.units_injective (by
      rw [hunits, hzero, Nat.zero_mul]
      rfl)
    rw [hm0, hzero]
    rfl
  · have hcoefficient :=
      coefficient_shortest_mul hunits (Nat.pos_of_ne_zero hzero) (by omega) Style.plain.tie
    have hexponent :=
      Magnitude.exponent_shortest_nonneg hunits (Nat.pos_of_ne_zero hzero) (by omega) Style.plain.tie
    have hnonzero : ¬ m.isZero = true := by
      intro hm0
      rw [Magnitude.eq_zero_of_isZero hm0] at hunits
      have hone := oneUnits_pos
      exact absurd hunits.symm (Nat.ne_of_gt (Nat.mul_pos (Nat.pos_of_ne_zero hzero) hone))
    rw [if_neg hnonzero]
    generalize m.shortest Style.plain.tie = d at *
    have hpos : 0 < d.coefficient := by
      apply Nat.pos_of_ne_zero
      intro hd
      rw [hd, Nat.zero_mul] at hcoefficient
      exact hzero hcoefficient.symm
    rw [Decimal.text, Style.plain, Decimal.positionalText, if_pos hexponent,
      ← hcoefficient, natText_mul_pow hpos]
    simp

end Binary64

end ItemStore.Number
