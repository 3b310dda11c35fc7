import ItemStore.Proofs.Number.NearestValue

/-! # Rounding keeps the order

Each value has a position on one line of whole units, an infinite one lying beyond all finite ones,
and two values compare as their positions do. The position of a rounded integer never falls when the
integer grows, and up to 2^53 in size it is the integer itself.
-/
namespace ItemStore.Number

attribute [local instance (2000)] instPowNat

namespace Binary64
variable {n m d : Nat} {i j : Int} {x y : Binary64}

/-- The binary logarithm of the number of units that is too large for the format. -/
def overflowExponent : Nat := 2098

def overflowUnits : Nat := 2 ^ overflowExponent

theorem overflowUnits_pos : 0 < overflowUnits := Nat.two_pow_pos overflowExponent

theorem overflowUnits_le_pow {e : Nat} (h : 2098 ≤ e) : overflowUnits ≤ 2 ^ e :=
  Nat.pow_le_pow_right (by decide) h

theorem units_lt_overflowUnits (m : Magnitude) : m.units < overflowUnits := by
  have hexponent : 53 + m.exponent ≤ overflowExponent := by
    have := m.exponent_le
    unfold overflowExponent
    omega
  exact Nat.lt_of_lt_of_le m.units_lt_pow (Nat.pow_le_pow_right (by decide) hexponent)

/-- The units of a rounded quotient, were there no largest value. -/
def roundedUnits (n d : Nat) : Nat := rounded n d * 2 ^ gridExponent (n / d)

theorem ofRatio_cases (hd : 0 < d) (n : Nat) (negative : Bool) :
    (∃ m, ofRatio negative n d = .finite negative m ∧ m.units = roundedUnits n d) ∨
    (ofRatio negative n d = .infinite negative ∧ overflowUnits ≤ roundedUnits n d) := by
  obtain ⟨hle, hnormal⟩ := rounded_bounds hd n
  rw [ofRatio_eq, roundedUnits]
  generalize rounded n d = k at *
  generalize gridExponent (n / d) = g at *
  split
  · next hcarry =>
    subst hcarry
    have hunits : 2 ^ (53 : Nat) * 2 ^ g = 2 ^ (52 : Nat) * 2 ^ (g + 1) := by
      rw [Nat.pow_succ]
      omega
    rw [hunits, ofParts]
    split
    · exact .inl ⟨_, rfl, rfl⟩
    · refine .inr ⟨rfl, ?_⟩
      rw [← Nat.pow_add]
      exact overflowUnits_le_pow (by grind)
  · next hcarry =>
    rw [ofParts]
    split
    · exact .inl ⟨_, rfl, rfl⟩
    · next hparts =>
      have hmantissa : 2 ^ (52 : Nat) ≤ k := by grind
      refine .inr ⟨rfl, Nat.le_trans ?_ (Nat.mul_le_mul_right _ hmantissa)⟩
      rw [← Nat.pow_add]
      exact overflowUnits_le_pow (by grind)

/-- A larger number is rounded to no fewer units: on the same grid the rounding is monotone, and a
coarser grid begins where the finer one ends. -/
theorem roundedUnits_mono (hd : 0 < d) (h : n ≤ m) : roundedUnits n d ≤ roundedUnits m d := by
  obtain ⟨-, habove⟩ := (gridExponent_div_eq_iff hd).mp (rfl : gridExponent (n / d) = _)
  obtain ⟨hbelow, -⟩ := (gridExponent_div_eq_iff hd).mp (rfl : gridExponent (m / d) = _)
  rcases Nat.lt_trichotomy (gridExponent (n / d)) (gridExponent (m / d)) with hgrid | hgrid | hgrid
  · obtain ⟨hle, -⟩ := rounded_bounds hd n
    have hge := (rounded_bounds hd m).2.resolve_left (by omega)
    calc roundedUnits n d ≤ 2 ^ (53 : Nat) * 2 ^ gridExponent (n / d) := Nat.mul_le_mul_right _ hle
      _ ≤ 2 ^ (52 : Nat) * 2 ^ gridExponent (m / d) := by
        rw [← Nat.pow_add, ← Nat.pow_add]
        exact Nat.pow_le_pow_right (by decide) (by omega)
      _ ≤ roundedUnits m d := Nat.mul_le_mul_right _ hge
  · have hstep : 0 < d * 2 ^ gridExponent (m / d) := Nat.mul_pos hd (Nat.two_pow_pos _)
    rw [roundedUnits, roundedUnits, rounded, rounded, hgrid]
    exact Nat.mul_le_mul_right _ (roundDiv_mono hstep h)
  · exfalso
    have habove := habove.resolve_left (by omega)
    have hgrids : 2 * 2 ^ gridExponent (m / d) ≤ 2 ^ gridExponent (n / d) := by
      rw [Nat.mul_comm, ← Nat.pow_succ]
      exact Nat.pow_le_pow_right (by decide) hgrid
    have hsteps : d * (2 * 2 ^ gridExponent (m / d)) ≤ d * 2 ^ gridExponent (n / d) :=
      Nat.mul_le_mul_left d hgrids
    rw [Nat.mul_left_comm] at hsteps
    omega

/-- The place of a value on the line of units. What is no number has none. -/
def position : Binary64 → Int
  | .nan => 0
  | .infinite negative => signed negative overflowUnits
  | .finite negative m => signed negative m.units

theorem compare?_eq_compare_position (hx : x.isNaN = false) (hy : y.isNaN = false) :
    x.compare? y = some (compare x.position y.position) := by
  have hover := overflowUnits_pos
  have hgt : compare (!false) (!true) = .gt := rfl
  have hlt : compare (!true) (!false) = .lt := rfl
  rw [Int.compare_eq_ite_lt]
  cases x with
  | nan => cases hx
  | infinite a =>
    cases y with
    | nan => cases hy
    | infinite b => cases a <;> cases b <;> grind [compare?, position, signed]
    | finite b n =>
      have hn := units_lt_overflowUnits n
      cases a <;> grind [compare?, position, signed]
  | finite a m =>
    have hm := units_lt_overflowUnits m
    cases y with
    | nan => cases hy
    | infinite b => cases b <;> grind [compare?, position, signed]
    | finite b n => exact congrArg some (Int.compare_eq_ite_lt _ _)

theorem isNaN_ofRatio (hd : 0 < d) (n : Nat) (negative : Bool) :
    (ofRatio negative n d).isNaN = false := by
  rcases ofRatio_cases hd n negative with ⟨m, h, -⟩ | ⟨h, -⟩ <;> rw [h] <;> rfl

theorem position_ofRatio (hd : 0 < d) (n : Nat) (negative : Bool) :
    (ofRatio negative n d).position = signed negative (min (roundedUnits n d) overflowUnits) := by
  rcases ofRatio_cases hd n negative with ⟨m, h, hunits⟩ | ⟨h, hunits⟩
  · rw [h, ← hunits, Nat.min_eq_left (Nat.le_of_lt (units_lt_overflowUnits m))]
    rfl
  · rw [h, Nat.min_eq_right hunits]
    rfl

/-! ### Integers -/

/-- The binary logarithm of the units of the number one. -/
def oneExponent : Nat := 1074

def oneUnits : Nat := 2 ^ oneExponent

theorem oneUnits_pos : 0 < oneUnits := Nat.two_pow_pos oneExponent

theorem oneUnits_eq_pow : 2 ^ (1074 : Nat) = oneUnits := by rw [oneUnits, oneExponent]

theorem ofInt_eq (i : Int) : ofInt i = ofRatio (i < 0) (i.natAbs * oneUnits) 1 := by
  rw [ofInt, oneUnits_eq_pow]

theorem position_ofInt_mono (h : i ≤ j) : (ofInt i).position ≤ (ofInt j).position := by
  have hmono {a b : Nat} (hab : a ≤ b) : min (roundedUnits (a * oneUnits) 1) overflowUnits ≤
      min (roundedUnits (b * oneUnits) 1) overflowUnits := by
    have := roundedUnits_mono Nat.one_pos (Nat.mul_le_mul_right oneUnits hab)
    omega
  rw [ofInt_eq, ofInt_eq, position_ofRatio Nat.one_pos, position_ofRatio Nat.one_pos]
  by_cases hi : i < 0
  · by_cases hj : j < 0
    · have := hmono (a := j.natAbs) (b := i.natAbs) (by omega)
      simp only [hi, hj, signed, decide_true, if_true]
      omega
    · simp only [hi, hj, signed, decide_true, decide_false, if_true, Bool.false_eq_true, if_false]
      omega
  · have hj : ¬ j < 0 := by omega
    have := hmono (a := i.natAbs) (b := j.natAbs) (by omega)
    simp only [hi, hj, signed, decide_false, Bool.false_eq_true, if_false]
    omega

theorem exists_units_of_parts {k e : Nat} (hlt : k < 2 ^ (53 : Nat)) (hnormal : 2 ^ (52 : Nat) ≤ k)
    (he : e ≤ 2045) : ∃ m : Magnitude, m.units = k * 2 ^ e :=
  ⟨⟨k, e, hlt, .inr hnormal, he⟩, rfl⟩

theorem exists_units_eq {k : Nat} (h : k ≤ 2 ^ (53 : Nat)) :
    ∃ m : Magnitude, m.units = k * oneUnits := by
  by_cases hzero : k = 0
  · exact ⟨.zero, by simp [hzero, Magnitude.units, Magnitude.zero]⟩
  by_cases htop : k = 2 ^ (53 : Nat)
  · obtain ⟨m, hm⟩ := exists_units_of_parts (k := 2 ^ (52 : Nat)) (e := oneExponent + 1) (by decide)
      (Nat.le_refl _) (by decide)
    refine ⟨m, ?_⟩
    rw [hm, htop, oneUnits, Nat.pow_succ]
    omega
  have hlog : k.log2 < 53 := (Nat.log2_lt hzero).mpr (by omega)
  have hlow : 2 ^ k.log2 ≤ k := Nat.log2_self_le hzero
  have hhigh : k < 2 ^ (k.log2 + 1) := Nat.lt_log2_self
  have hmantissa : k * 2 ^ (52 - k.log2) < 2 ^ (53 : Nat) := by
    have := Nat.mul_lt_mul_of_pos_right hhigh (Nat.two_pow_pos (52 - k.log2))
    rwa [← Nat.pow_add, show k.log2 + 1 + (52 - k.log2) = 53 by omega] at this
  have hnormal : 2 ^ (52 : Nat) ≤ k * 2 ^ (52 - k.log2) := by
    have := Nat.mul_le_mul_right (2 ^ (52 - k.log2)) hlow
    rwa [← Nat.pow_add, show k.log2 + (52 - k.log2) = 52 by omega] at this
  obtain ⟨m, hm⟩ := exists_units_of_parts hmantissa hnormal (show 1022 + k.log2 ≤ 2045 by omega)
  have hsum : 52 - k.log2 + (1022 + k.log2) = oneExponent := by
    unfold oneExponent
    omega
  exact ⟨m, by rw [hm, Nat.mul_assoc, ← Nat.pow_add, hsum, oneUnits]⟩

theorem ofInt_of_natAbs_le (h : i.natAbs ≤ 2 ^ (53 : Nat)) :
    ∃ m, ofInt i = .finite (i < 0) m ∧ m.units = i.natAbs * oneUnits := by
  obtain ⟨m, hm⟩ := exists_units_eq h
  refine ⟨m, ?_, hm⟩
  rw [ofInt_eq, ← hm]
  apply ofRatio_of_identifiedBy Nat.one_pos
  have hself := m.identifiedBy_quarters Nat.one_pos
  rwa [Nat.mul_one] at hself

theorem signed_mul (negative : Bool) (n m : Nat) :
    signed negative (n * m) = signed negative n * m := by
  cases negative with
  | false => exact Int.natCast_mul n m
  | true =>
    simp only [signed, if_true, Int.natCast_mul]
    rw [Int.neg_mul]

@[simp] theorem signed_natAbs (i : Int) : signed (i < 0) i.natAbs = i := by
  by_cases h : i < 0
  · simp only [signed, h, decide_true, if_true]
    omega
  · simp only [signed, h, decide_false, Bool.false_eq_true, if_false]
    omega

theorem position_ofInt_of_natAbs_le (h : i.natAbs ≤ 2 ^ (53 : Nat)) :
    (ofInt i).position = i * oneUnits := by
  obtain ⟨m, hm, hunits⟩ := ofInt_of_natAbs_le h
  rw [hm, position, hunits, signed_mul, signed_natAbs]

theorem eq_of_ofInt_eq (hi : i.natAbs ≤ 2 ^ (53 : Nat)) (hj : j.natAbs ≤ 2 ^ (53 : Nat))
    (h : ofInt i = ofInt j) : i = j := by
  have hposition := congrArg position h
  rw [position_ofInt_of_natAbs_le hi, position_ofInt_of_natAbs_le hj] at hposition
  exact Int.eq_of_mul_eq_mul_right (Int.natCast_ne_zero.mpr (Nat.ne_of_gt oneUnits_pos)) hposition

/-- Below 2^53 no other integer is rounded to an integer. -/
theorem eq_of_ofInt_eq_of_lt (hi : i.natAbs < 2 ^ (53 : Nat)) (h : ofInt i = ofInt j) : i = j := by
  have hone : (0 : Int) < oneUnits := Int.natCast_pos.mpr oneUnits_pos
  have hplace : i * oneUnits = (ofInt j).position := by
    rw [← h, position_ofInt_of_natAbs_le (Nat.le_of_lt hi)]
  have hupper : (ofInt 9007199254740992).position = 9007199254740992 * oneUnits :=
    position_ofInt_of_natAbs_le (by decide)
  have hlower : (ofInt (-9007199254740992)).position = -9007199254740992 * oneUnits :=
    position_ofInt_of_natAbs_le (by decide)
  have hbelow : i * oneUnits < 9007199254740992 * oneUnits :=
    Int.mul_lt_mul_of_pos_right (by omega) hone
  have habove : -9007199254740992 * oneUnits < i * oneUnits :=
    Int.mul_lt_mul_of_pos_right (by omega) hone
  apply eq_of_ofInt_eq (Nat.le_of_lt hi) _ h
  apply Nat.le_of_not_lt
  intro hj
  rcases Int.lt_or_le j 0 with hneg | hpos
  · have hmono := position_ofInt_mono (show j ≤ -9007199254740992 by omega)
    omega
  · have hmono := position_ofInt_mono (show 9007199254740992 ≤ j by omega)
    omega

theorem position_ofInt_neg (h : i < 0) : (ofInt i).position < 0 := by
  have hone : (ofInt (-1)).position = -1 * oneUnits := position_ofInt_of_natAbs_le (by decide)
  have hmono := position_ofInt_mono (show i ≤ -1 by omega)
  have hpos := oneUnits_pos
  omega

theorem signed_injective {negative : Bool} (h : signed negative n = signed negative m) : n = m := by
  cases negative <;> simp only [signed, if_true, Bool.false_eq_true, if_false] at h <;> omega

@[simp] theorem natAbs_signed (negative : Bool) (n : Nat) : (signed negative n).natAbs = n := by
  cases negative <;> simp [signed]

theorem signed_neg_iff {negative : Bool} (hn : n ≠ 0) : signed negative n < 0 ↔ negative = true := by
  cases negative with
  | false => simp [signed]
  | true => simpa [signed] using Nat.pos_of_ne_zero hn

/-- Among values of one sign the position tells the value. -/
theorem ofRatio_eq_of_position_eq {negative : Bool} (hd : 0 < d)
    (h : (ofRatio negative n d).position = (ofRatio negative m d).position) :
    ofRatio negative n d = ofRatio negative m d := by
  rcases ofRatio_cases hd n negative with ⟨x, hx, -⟩ | ⟨hx, -⟩ <;>
    rcases ofRatio_cases hd m negative with ⟨y, hy, -⟩ | ⟨hy, -⟩ <;> rw [hx, hy] at h ⊢
  · rw [Magnitude.units_injective (signed_injective h)]
  · exact absurd (signed_injective h) (Nat.ne_of_lt (units_lt_overflowUnits x))
  · exact absurd (signed_injective h) (Nat.ne_of_gt (units_lt_overflowUnits y))

/-- Among integers the position tells the value: none of them is a negative zero. -/
theorem ofInt_eq_of_position_eq (h : (ofInt i).position = (ofInt j).position) :
    ofInt i = ofInt j := by
  have hsign {a b : Int} (hab : (ofInt a).position = (ofInt b).position) (ha : a < 0) : b < 0 := by
    apply Int.lt_of_not_ge
    intro hb
    have hneg := position_ofInt_neg ha
    have hmono := position_ofInt_mono hb
    have hzero : (ofInt 0).position = 0 * oneUnits := position_ofInt_of_natAbs_le (by decide)
    omega
  have hsame : decide (i < 0) = decide (j < 0) := by
    rw [decide_eq_decide]
    exact ⟨hsign h, hsign h.symm⟩
  rw [ofInt_eq, ofInt_eq, hsame] at h ⊢
  exact ofRatio_eq_of_position_eq Nat.one_pos h

end Binary64

end ItemStore.Number
