import ItemStore.Number.Rounding

/-! # The nearest natural number

What `roundDiv` gives is the one multiple of the divisor that is nearest, and of two the one with
an even factor. Which quotients are rounded to a number is therefore an interval, and it has its
ends exactly if the number is even.
-/
namespace ItemStore.Number

/-- `n` lies between two bounds, themselves included if the interval is closed. -/
def Within (closed : Bool) (low n high : Nat) : Prop :=
  if closed = true then low ≤ n ∧ n ≤ high else low < n ∧ n < high

theorem Within.le {closed : Bool} {low n high : Nat} (h : Within closed low n high) :
    low ≤ n ∧ n ≤ high := by
  unfold Within at h
  split at h <;> omega

theorem within_mul_iff {closed : Bool} {low n high c : Nat} (hc : 0 < c) :
    Within closed (low * c) (n * c) (high * c) ↔ Within closed low n high := by
  simp only [Within, Nat.mul_le_mul_right_iff hc, Nat.mul_lt_mul_right hc]

section Nearest
variable {n m d k : Nat}

theorem roundDiv_cases (n d : Nat) (tie : Tie) :
    (roundDiv n d tie = n / d ∧ 2 * (n % d) ≤ d) ∨
    (roundDiv n d tie = n / d + 1 ∧ d ≤ 2 * (n % d)) := by
  unfold roundDiv
  grind

/-- Rounding moves a number by at most half a step. -/
theorem roundDiv_near (hd : 0 < d) (n : Nat) (tie : Tie) :
    2 * (roundDiv n d tie * d) ≤ 2 * n + d ∧ 2 * n ≤ 2 * (roundDiv n d tie * d) + d := by
  have hn : n / d * d + n % d = n := Nat.div_add_mod' n d
  have hr : n % d < d := Nat.mod_lt n hd
  rcases roundDiv_cases n d tie with ⟨hk, hle⟩ | ⟨hk, hle⟩
  · rw [hk]
    omega
  · rw [hk, Nat.add_mul, Nat.one_mul]
    omega

theorem step_le_of_ne {k r : Int} (d : Nat) (h : k ≠ r) :
    k * d + d ≤ r * d ∨ r * d + d ≤ k * d := by
  have hstep {a b : Int} (hab : a < b) : a * d + d ≤ b * d := by
    calc a * d + d = (a + 1) * d := by rw [Int.add_mul, Int.one_mul]
      _ ≤ b * d := Int.mul_le_mul_of_nonneg_right hab (Int.natCast_nonneg d)
  rcases Int.lt_or_gt_of_ne h with hlt | hgt
  · exact .inl (hstep hlt)
  · exact .inr (hstep hgt)

theorem roundDiv_nearest (hd : 0 < d) (n : Nat) (tie : Tie) (k : Int) :
    (roundDiv n d tie * d - n : Int).natAbs ≤ (k * d - n : Int).natAbs := by
  obtain ⟨hlow, hhigh⟩ := roundDiv_near hd n tie
  generalize roundDiv n d tie = r at *
  by_cases hk : k = r
  · exact Nat.le_of_eq (by rw [hk])
  · have hcast : ((r * d : Nat) : Int) = r * d := Int.natCast_mul r d
    rcases step_le_of_ne d hk with hbelow | habove <;> omega

/-- A number that is rounded to `k` lies within half a step of `k * d`, where a tie counts if `k` is
even. -/
theorem roundDiv_eq_iff (hd : 0 < d) :
    roundDiv n d .toEven = k ↔
      Within (k % 2 == 0) (2 * (k * d)) (2 * n + d) (2 * (k * d) + 2 * d) := by
  have hn : n / d * d + n % d = n := Nat.div_add_mod' n d
  have hr : n % d < d := Nat.mod_lt n hd
  have hsucc : (n / d + 1) * d = n / d * d + d := by rw [Nat.add_mul, Nat.one_mul]
  have hround : roundDiv n d .toEven = n / d ∨ roundDiv n d .toEven = n / d + 1 := by
    rcases roundDiv_cases n d .toEven with h | h
    · exact .inl h.1
    · exact .inr h.1
  rcases Nat.lt_trichotomy k (n / d) with hk | rfl | hk
  · have hfar : (k + 1) * d ≤ n / d * d := Nat.mul_le_mul_right d hk
    rw [Nat.add_mul, Nat.one_mul] at hfar
    refine ⟨fun h => by omega, fun h => ?_⟩
    have := h.le
    omega
  · unfold Within roundDiv
    grind
  · rcases Nat.lt_or_ge (n / d + 1) k with hfar | hnext
    · have hstep : (n / d + 2) * d ≤ k * d := Nat.mul_le_mul_right d hfar
      rw [Nat.add_mul] at hstep
      refine ⟨fun h => by omega, fun h => ?_⟩
      have := h.le
      omega
    · obtain rfl : k = n / d + 1 := Nat.le_antisymm hnext hk
      unfold Within roundDiv
      grind

/-- Of two equally near multiples it is the even one. -/
theorem roundDiv_even_of_tie (hd : 0 < d) {k : Int}
    (h : (k * d - n : Int).natAbs = (roundDiv n d .toEven * d - n : Int).natAbs) :
    k = roundDiv n d .toEven ∨ roundDiv n d .toEven % 2 = 0 := by
  have hround := (roundDiv_eq_iff hd).mp (rfl : roundDiv n d .toEven = _)
  generalize roundDiv n d .toEven = r at *
  by_cases heven : r % 2 = 0
  · exact .inr heven
  by_cases hk : k = r
  · exact .inl hk
  exfalso
  rw [Within, if_neg (by simpa using heven)] at hround
  have hcast : ((r * d : Nat) : Int) = r * d := Int.natCast_mul r d
  rcases step_le_of_ne d hk with hbelow | habove <;> omega

theorem roundDiv_mono (hd : 0 < d) (h : n ≤ m) : roundDiv n d .toEven ≤ roundDiv m d .toEven := by
  apply Nat.le_of_not_lt
  intro hlt
  have hn := (roundDiv_eq_iff hd).mp (rfl : roundDiv n d .toEven = _)
  have hm := (roundDiv_eq_iff hd).mp (rfl : roundDiv m d .toEven = _)
  have hstep : (roundDiv m d .toEven + 1) * d ≤ roundDiv n d .toEven * d := Nat.mul_le_mul_right d hlt
  rw [Nat.add_mul, Nat.one_mul] at hstep
  have hnle := hn.le
  have hmle := hm.le
  -- Both are halfway between the same two neighbours, and of these one is even.
  have hsame : n = m := by omega
  rw [hsame] at hlt
  exact Nat.lt_irrefl _ hlt

/-- A multiple of the divisor is not moved. -/
theorem roundDiv_mul (hd : 0 < d) (k : Nat) (tie : Tie) : roundDiv (k * d) d tie = k := by
  simp [roundDiv, hd]

end Nearest

end ItemStore.Number
