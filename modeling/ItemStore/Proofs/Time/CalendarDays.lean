import ItemStore.Time.Instant

/-! # Days and dates

Every day lies in one year, and in it at one place of one month. So a day is found again from its
date, and the supported seconds are those of the days in the supported years.
-/
namespace ItemStore.Time

/-! ### Years -/

theorem yearStart_eq (year : Int) :
    yearStart year =
      365 * (year - 1) + (year - 1) / 4 - (year - 1) / 100 + (year - 1) / 400 - 719162 := rfl

theorem yearStart_succ (year : Int) : yearStart (year + 1) = yearStart year + daysInYear year := by
  have hleap : isLeap year = true ↔ year % 4 = 0 ∧ (year % 100 ≠ 0 ∨ year % 400 = 0) := by
    simp [isLeap]
  rw [yearStart_eq, yearStart_eq, daysInYear]
  split
  · next h =>
    have hdivides := hleap.mp h
    omega
  · next h =>
    have hdivides := mt hleap.mpr h
    omega

theorem yearStart_mono {a b : Int} (h : a ≤ b) : yearStart a ≤ yearStart b := by
  rw [yearStart_eq, yearStart_eq]
  omega

theorem yearOf_bounds (day : Int) :
    yearStart (yearOf day) ≤ day ∧ day < yearStart (yearOf day + 1) := by
  unfold yearOf
  generalize hguess : (day + 719162) * 400 / 146097 + 1 = guess
  -- The guess counts in mean years and is at most one year off.
  have hbefore : yearStart (guess - 1) ≤ day := by
    rw [yearStart_eq]
    omega
  have hafter : day < yearStart (guess + 1 + 1) := by
    rw [yearStart_eq]
    omega
  dsimp only
  split
  · next hearly =>
    rw [Int.sub_add_cancel]
    exact ⟨hbefore, hearly⟩
  · next hearly =>
    split
    · next hlate => exact ⟨hlate, hafter⟩
    · next hlate => exact ⟨Int.not_lt.mp hearly, Int.not_le.mp hlate⟩

theorem le_yearOf_iff {year day : Int} : year ≤ yearOf day ↔ yearStart year ≤ day := by
  obtain ⟨hlow, hhigh⟩ := yearOf_bounds day
  constructor
  · intro h
    exact Int.le_trans (yearStart_mono h) hlow
  · intro h
    refine Int.not_lt.mp fun hlt => ?_
    have hnext : yearStart (yearOf day + 1) ≤ yearStart year := yearStart_mono hlt
    omega

/-- The seconds of the supported range are those whose day lies in a supported year. -/
theorem inRange_iff {seconds : Int} :
    inRange seconds = true ↔ inYears (yearOf (dayOf seconds)) = true := by
  have hlow : minYear ≤ yearOf (dayOf seconds) ↔ firstSecond ≤ seconds := by
    rw [le_yearOf_iff]
    have hstart : yearStart minYear * 86400 = firstSecond := by decide
    unfold dayOf secondsPerDay
    omega
  have hhigh : yearOf (dayOf seconds) ≤ maxYear ↔ seconds ≤ lastSecond := by
    have hend : yearStart (maxYear + 1) * 86400 = lastSecond + 1 := by decide
    have hnot : ¬ maxYear + 1 ≤ yearOf (dayOf seconds) ↔ seconds ≤ lastSecond := by
      rw [le_yearOf_iff]
      unfold dayOf secondsPerDay
      omega
    omega
  rw [inRange, inYears, Bool.and_eq_true, Bool.and_eq_true, decide_eq_true_eq, decide_eq_true_eq,
    decide_eq_true_eq, decide_eq_true_eq, hlow, hhigh]

/-! ### Months -/

theorem daysBefore_one (year : Int) : daysBefore year 1 = 0 := rfl

theorem daysBefore_succ (year : Int) {month : Nat} (h : 1 ≤ month) :
    daysBefore year (month + 1) = daysBefore year month + daysInMonth year month := by
  obtain ⟨k, rfl⟩ := Nat.exists_eq_add_of_le' h
  simp [daysBefore, List.range_succ]

theorem daysBefore_end (year : Int) : daysBefore year 13 = daysInYear year := by
  cases h : isLeap year <;> simp [daysBefore, daysInMonth, daysInYear, h, List.range_succ]

/-- What is counted through the months is the place in the year, and the count ends in a month that
has the day. -/
theorem monthDay_spec {year : Int} {month ordinal left : Nat} (hmonth : 1 ≤ month)
    (hleft : month + left = 12) (hordinal : 1 ≤ ordinal)
    (hend : daysBefore year month + ordinal ≤ daysInYear year) :
    ∃ m d, monthDay year month ordinal left = (m, d) ∧ 1 ≤ m ∧ m ≤ 12 ∧ 1 ≤ d ∧
      d ≤ daysInMonth year m ∧ daysBefore year m + d = daysBefore year month + ordinal := by
  induction left generalizing month ordinal with
  | zero =>
    obtain rfl : month = 12 := by omega
    have hlast := daysBefore_succ year hmonth
    rw [daysBefore_end] at hlast
    exact ⟨12, ordinal, rfl, by omega, by omega, hordinal, by omega, rfl⟩
  | succ left ih =>
    rw [monthDay]
    split
    · next hfits => exact ⟨month, ordinal, rfl, hmonth, by omega, hordinal, hfits, rfl⟩
    · next hbeyond =>
      have hnext := daysBefore_succ year hmonth
      have hrest : 1 ≤ ordinal - daysInMonth year month := by omega
      obtain ⟨m, d, hcount, hlow, hhigh, hfirst, hlast, hplace⟩ :=
        ih (Nat.le_add_left 1 month) (by omega) hrest (by omega)
      exact ⟨m, d, hcount, hlow, hhigh, hfirst, hlast, by omega⟩

/-- A day that lies in a supported year has a date, and the date has that day. -/
theorem dateOf_spec (day : Int) :
    ∃ month dayOfMonth : Nat, dateOf day = ⟨yearOf day, month, dayOfMonth⟩ ∧
      1 ≤ month ∧ month ≤ 12 ∧ 1 ≤ dayOfMonth ∧ dayOfMonth ≤ daysInMonth (yearOf day) month ∧
      yearStart (yearOf day) + daysBefore (yearOf day) month + (dayOfMonth - 1 : Nat) = day := by
  obtain ⟨hlow, hhigh⟩ := yearOf_bounds day
  rw [yearStart_succ] at hhigh
  have hone := daysBefore_one (yearOf day)
  have hmonths : 1 + 11 = 12 := rfl
  have hordinal : 1 ≤ ordinalOf day := Nat.le_add_left 1 _
  have hend : daysBefore (yearOf day) 1 + ordinalOf day ≤ daysInYear (yearOf day) := by
    unfold ordinalOf
    omega
  obtain ⟨m, d, hcount, hfirst, hlast, hpos, hmonth, hplace⟩ :=
    monthDay_spec (Nat.le_refl 1) hmonths hordinal hend
  refine ⟨m, d, ?_, hfirst, hlast, hpos, hmonth, ?_⟩
  · rw [dateOf, hcount]
  · unfold ordinalOf at hplace
    omega

theorem dayOfDate?_dateOf {day : Int} (h : inYears (yearOf day) = true) :
    dayOfDate? (dateOf day) = some day := by
  obtain ⟨month, dayOfMonth, hdate, hfirst, hlast, hpos, hmonth, hday⟩ := dateOf_spec day
  have hvalid : (inYears (yearOf day) && 1 ≤ month && month ≤ 12 && 1 ≤ dayOfMonth &&
      dayOfMonth ≤ daysInMonth (yearOf day) month) = true := by
    simp [h, hfirst, hlast, hpos, hmonth]
  rw [hdate, dayOfDate?, if_pos hvalid, hday]

end ItemStore.Time
