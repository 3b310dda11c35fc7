import ItemStore.Proofs.Time.DocumentText
import ItemStore.Time.Format

/-! # The range of read times

A clock that is read from a text has an hour below 24 and a minute below 60, and a day that is
resolved lies in a supported year. So every instant that is read lies in the supported range.
-/
namespace ItemStore.Time

/-! ### Days -/

theorem yearOf_eq {year day : Int} (hlow : yearStart year ≤ day) (hhigh : day < yearStart (year + 1)) :
    yearOf day = year := by
  have hle : year ≤ yearOf day := le_yearOf_iff.mpr hlow
  have hnot : ¬ year + 1 ≤ yearOf day := mt le_yearOf_iff.mp (Int.not_le.mpr hhigh)
  omega

theorem daysBefore_le (year : Int) {month later : Nat} (h : 1 ≤ month) (hlater : month ≤ later) :
    daysBefore year month ≤ daysBefore year later := by
  induction hlater with
  | refl => exact Nat.le_refl _
  | step hle ih =>
    rw [daysBefore_succ year (Nat.le_trans h hle)]
    exact Nat.le_trans ih (Nat.le_add_right _ _)

theorem inYears_of_dayOfDate? {date : Date} {day : Int} (h : dayOfDate? date = some day) :
    inYears (yearOf day) = true := by
  unfold dayOfDate? at h
  split at h
  · next hdate =>
    simp only [Bool.and_eq_true, decide_eq_true_eq] at hdate
    obtain ⟨⟨⟨⟨hyears, hfirst⟩, hlast⟩, hpos⟩, hmonth⟩ := hdate
    have hend := daysBefore_le date.year (Nat.le_add_left 1 date.month) (Nat.succ_le_succ hlast)
    rw [daysBefore_succ date.year hfirst, daysBefore_end] at hend
    have hnext := yearStart_succ date.year
    cases h
    have hyear : yearOf (yearStart date.year + daysBefore date.year date.month + (date.day - 1 : Nat)) =
        date.year := yearOf_eq (by omega) (by omega)
    rwa [hyear]
  · cases h

theorem inYears_of_dayOfOrdinal? {year day : Int} {ordinal : Nat}
    (h : dayOfOrdinal? year ordinal = some day) : inYears (yearOf day) = true := by
  unfold dayOfOrdinal? at h
  split at h
  · next hordinal =>
    simp only [Bool.and_eq_true, decide_eq_true_eq] at hordinal
    obtain ⟨⟨hyears, hfirst⟩, hlast⟩ := hordinal
    have hnext := yearStart_succ year
    cases h
    have hyear : yearOf (yearStart year + (ordinal - 1 : Nat)) = year :=
      yearOf_eq (by omega) (by omega)
    rwa [hyear]
  · cases h

theorem inYears_of_dayOfWeek? {start week weekday : Nat} {year day : Int}
    (h : dayOfWeek? start year week weekday = some day) : inYears (yearOf day) = true := by
  unfold dayOfWeek? at h
  split at h
  · cases h
  · obtain ⟨first, -, h⟩ := Option.bind_eq_some_iff.mp h
    dsimp only at h
    split at h
    · cases h
    · exact inYears_of_dayOfOrdinal? h

theorem inYears_of_dayOfIsoWeek? {year day : Int} {week weekday : Nat}
    (h : dayOfIsoWeek? year week weekday = some day) : inYears (yearOf day) = true := by
  unfold dayOfIsoWeek? at h
  dsimp only at h
  split at h
  · next hweek =>
    cases h
    simp only [Bool.and_eq_true] at hweek
    exact hweek.2
  · cases h

theorem inRange_instantOf {day : Int} {time : Nat × Nat} (hday : inYears (yearOf day) = true)
    (htime : time.1 < 86400) : inRange (Fields.instantOf day time).seconds = true := by
  have hsame : dayOf (Fields.instantOf day time).seconds = day := by
    simp only [dayOf, Fields.instantOf, secondsPerDay]
    omega
  rwa [inRange_iff, hsame]

namespace Fields
variable {f g : Fields}

theorem bind_eq_ok_iff {α β : Type} {x : Except Gap α} {f : α → Except Gap β} {b : β} :
    x >>= f = .ok b ↔ ∃ a, x = .ok a ∧ f a = .ok b := by
  cases x <;> simp [bind, Except.bind]

theorem ok_of_orWrong {α : Type} {value : Option α} {a : α} (h : orWrong value = .ok a) :
    value = some a := by
  cases value with
  | none => cases h
  | some b =>
    cases h
    rfl

theorem inYears_of_candidateDay {day : Int} (h : f.candidateDay = .ok day) :
    inYears (yearOf day) = true := by
  unfold candidateDay at h
  obtain ⟨year, -, h⟩ := bind_eq_ok_iff.mp h
  obtain ⟨isoYear, -, h⟩ := bind_eq_ok_iff.mp h
  split at h
  · exact inYears_of_dayOfDate? (ok_of_orWrong h)
  split at h
  · exact inYears_of_dayOfOrdinal? (ok_of_orWrong h)
  split at h
  · exact inYears_of_dayOfWeek? (ok_of_orWrong h)
  split at h
  · exact inYears_of_dayOfWeek? (ok_of_orWrong h)
  split at h
  · exact inYears_of_dayOfIsoWeek? (ok_of_orWrong h)
  · cases h

theorem inYears_of_resolveDay {day : Int} (h : f.resolveDay = .ok day) :
    inYears (yearOf day) = true := by
  unfold resolveDay at h
  obtain ⟨candidate, hcandidate, h⟩ := bind_eq_ok_iff.mp h
  split at h
  · cases h
    exact inYears_of_candidateDay hcandidate
  · cases h

/-- A clock below 24 hours. -/
structure Bounded (f : Fields) : Prop where
  halfDay : ∀ v ∈ f.halfDay, v ≤ 1
  hourOfHalf : ∀ v ∈ f.hourOfHalf, v ≤ 11
  minute : ∀ v ∈ f.minute, v ≤ 59

theorem Bounded.lt_of_resolveTime (h : f.Bounded) {time : Nat × Nat} (htime : f.resolveTime = .ok time) :
    time.1 < 86400 := by
  unfold resolveTime at htime
  split at htime
  · next half hour minute hhalf hhour hminute =>
    have hhalf := h.halfDay half hhalf
    have hhour := h.hourOfHalf hour hhour
    have hminute := h.minute minute hminute
    dsimp only at htime
    split at htime
    · cases htime
    · cases htime
      dsimp only
      omega
  · cases htime

theorem agree_eq_some {old new : Option Int} {v : Int} (h : agree old v = some new) : new = some v := by
  unfold agree at h
  split at h
  · cases h
    rfl
  · split at h
    · cases h
      rfl
    · cases h

theorem Bounded.of_map {old : Option (Option Int)} {put : Option Int → Fields} (h : f.Bounded)
    (hg : old.map put = some g) (hput : ∀ x, (put x).halfDay = f.halfDay ∧
      (put x).hourOfHalf = f.hourOfHalf ∧ (put x).minute = f.minute) : g.Bounded := by
  obtain ⟨x, -, rfl⟩ := Option.map_eq_some_iff.mp hg
  obtain ⟨hhalf, hhour, hminute⟩ := hput x
  exact ⟨hhalf ▸ h.halfDay, hhour ▸ h.hourOfHalf, hminute ▸ h.minute⟩

theorem Bounded.setHalfDay {v : Int} (h : f.Bounded) (hv : v ≤ 1) (hset : f.setHalfDay v = some g) :
    g.Bounded := by
  obtain ⟨x, hagree, rfl⟩ := Option.map_eq_some_iff.mp hset
  cases agree_eq_some hagree
  exact ⟨by rintro _ ⟨⟩; exact hv, h.hourOfHalf, h.minute⟩

theorem Bounded.setHourOfHalf {v : Int} (h : f.Bounded) (hv : v ≤ 11)
    (hset : f.setHourOfHalf v = some g) : g.Bounded := by
  obtain ⟨x, hagree, rfl⟩ := Option.map_eq_some_iff.mp hset
  cases agree_eq_some hagree
  exact ⟨h.halfDay, by rintro _ ⟨⟩; exact hv, h.minute⟩

theorem Bounded.set (component : Component) {v : Int} (h : f.Bounded)
    (hset : component.set f v = some g) : g.Bounded := by
  cases component with
  | hour =>
    obtain ⟨hv, hset⟩ := Option.ite_none_right_eq_some.mp hset
    have hbounds := within_iff.mp hv
    obtain ⟨half, hhalf, hset⟩ := Option.bind_eq_some_iff.mp hset
    exact (h.setHalfDay (by omega) hhalf).setHourOfHalf (by omega) hset
  | hour12 =>
    obtain ⟨hv, hset⟩ := Option.ite_none_right_eq_some.mp hset
    exact h.setHourOfHalf (by omega) hset
  | minute =>
    obtain ⟨hv, hset⟩ := Option.ite_none_right_eq_some.mp hset
    obtain ⟨x, hagree, rfl⟩ := Option.map_eq_some_iff.mp hset
    cases agree_eq_some hagree
    exact ⟨h.halfDay, h.hourOfHalf, by rintro _ ⟨⟩; exact (within_iff.mp hv).2⟩
  | timestamp => exact h.of_map hset fun _ => ⟨rfl, rfl, rfl⟩
  | _ =>
    obtain ⟨-, hset⟩ := Option.ite_none_right_eq_some.mp hset
    exact h.of_map hset fun _ => ⟨rfl, rfl, rfl⟩

end Fields

theorem bounded_of_taken {α : Type} {taken : Option (α × List Char)} (put : α → Option Fields)
    {g : Fields} {left : List Char} (hput : ∀ v after, put v = some after → after.Bounded)
    (h : (do
      let (v, rest) ← taken
      (put v).map (·, rest)) = some (g, left)) : g.Bounded := by
  obtain ⟨⟨v, rest⟩, -, h⟩ := Option.bind_eq_some_iff.mp h
  obtain ⟨after, hafter, h⟩ := Option.map_eq_some_iff.mp h
  cases h
  exact hput v g hafter

theorem Directive.bounded_of_read? {directive : Directive} {f g : Fields} {text rest : List Char}
    (h : f.Bounded) (hread : directive.read? f text = some (g, rest)) : g.Bounded := by
  have hnanos (v : Int) (after : Fields) (hset : f.setNanos v = some after) : after.Bounded :=
    h.set .nanos hset
  cases directive with
  | literal c =>
    obtain ⟨x, -, hread⟩ := Option.map_eq_some_iff.mp hread
    cases hread
    exact h
  | blank | zoneName =>
    cases hread
    exact h
  | number component | digits component =>
    exact bounded_of_taken (component.set f) (fun _ _ => h.set component) hread
  | monthName full =>
    exact bounded_of_taken (fun place : Nat => f.setMonth (place + 1)) (fun _ _ => h.set .month) hread
  | weekdayName full =>
    refine bounded_of_taken (fun place : Nat => f.setWeekday place) (fun _ _ hset => ?_) hread
    exact h.of_map hset fun _ => ⟨rfl, rfl, rfl⟩
  | halfDay =>
    simp only [read?] at hread
    split at hread
    · obtain ⟨after, hset, hread⟩ := Option.map_eq_some_iff.mp hread
      cases hread
      exact h.setHalfDay (by decide) hset
    · obtain ⟨after, hset, hread⟩ := Option.map_eq_some_iff.mp hread
      cases hread
      exact h.setHalfDay (by decide) hset
    · cases hread
  | fraction =>
    simp only [read?] at hread
    split at hread
    · exact bounded_of_taken f.setNanos hnanos hread
    · cases hread
      exact h
  | pointDigits count =>
    simp only [read?] at hread
    split at hread
    · exact bounded_of_taken (fun v => f.setNanos (scaledNanos v count)) (fun v => hnanos _) hread
    · cases hread
      exact h
  | fractionDigits count =>
    exact bounded_of_taken (fun v => f.setNanos (scaledNanos v count)) (fun v => hnanos _) hread
  | dateEnd =>
    simp only [read?] at hread
    split at hread <;> cases hread <;> exact h
  | offset form =>
    refine bounded_of_taken f.setOffset (fun _ _ hset => ?_) hread
    exact h.of_map hset fun _ => ⟨rfl, rfl, rfl⟩

namespace Layout
variable {layout : Layout} {f g : Fields} {text rest : List Char}

theorem bounded_of_readStart? (h : f.Bounded) (hread : layout.readStart? f text = some (g, rest)) :
    g.Bounded := by
  induction layout generalizing f text with
  | nil =>
    cases hread
    exact h
  | cons directive layout ih =>
    obtain ⟨⟨next, left⟩, hfirst, hread⟩ := Option.bind_eq_some_iff.mp hread
    exact ih (Directive.bounded_of_read? h hfirst) hread

theorem bounded_of_readFields? (hread : layout.readFields? text = some g) : g.Bounded := by
  unfold readFields? at hread
  split at hread
  · next f hstart =>
    cases hread
    have hempty : ({} : Fields).Bounded := ⟨by rintro _ ⟨⟩, by rintro _ ⟨⟩, by rintro _ ⟨⟩⟩
    exact bounded_of_readStart? hempty hstart
  · cases hread

end Layout

/-! ### Instants -/

theorem inRange_of_ofSeconds? {seconds : Int} {nanos : Nat} {t : Instant}
    (h : ofSeconds? seconds nanos = some t) : inRange t.seconds = true := by
  obtain ⟨hrange, h⟩ := Option.ite_none_right_eq_some.mp h
  cases h
  exact hrange

namespace Fields
variable {f g : Fields} {t : Instant}

/-- A timestamp that is put in leaves a clock below 24 hours. -/
theorem Bounded.withTimestamp {seconds : Int} (h : f.Bounded)
    (hput : f.withTimestamp seconds = some g) : g.Bounded := by
  -- What is put in once the second is settled.
  have hlast {shown : Int} {first : Fields} (hfirst : first.Bounded)
      (hput : (do
        let f ← first.setYear (yearOf (dayOf shown))
        let f ← f.setOrdinal (ordinalOf (dayOf shown))
        let f ← f.setHour (secondOfDay shown / 3600 : Nat)
        f.setMinute (secondOfDay shown / 60 % 60 : Nat)) = some g) : g.Bounded := by
    simp only [Option.bind_eq_bind, Option.bind_eq_some_iff] at hput
    obtain ⟨dated, hyear, placed, hordinal, timed, hhour, hput⟩ := hput
    exact (((hfirst.set .year hyear).set .ordinal hordinal).set .hour hhour).set .minute hput
  unfold Fields.withTimestamp at hput
  dsimp only at hput
  split at hput
  · split at hput
    · exact hlast h hput
    · split at hput
      · exact hlast h hput
      · cases hput
  · obtain ⟨⟨shown, first⟩, hfirst, hput⟩ := Option.bind_eq_some_iff.mp hput
    obtain ⟨after, hset, hafter⟩ := Option.map_eq_some_iff.mp hfirst
    cases hafter
    exact hlast (h.set .second hset) hput

theorem Bounded.inRange_of_resolved {day : Int} {time : Nat × Nat} (h : f.Bounded)
    (hday : f.resolveDay = .ok day) (htime : f.resolveTime = .ok time) :
    inRange (instantOf day time).seconds = true :=
  inRange_instantOf (inYears_of_resolveDay hday) (h.lt_of_resolveTime htime)

theorem Bounded.inRange_of_resolveLocal {offset : Int} (h : f.Bounded)
    (hlocal : f.resolveLocal offset = some t) : inRange t.seconds = true := by
  unfold resolveLocal at hlocal
  split at hlocal
  · next day time hday htime =>
    have hrange := h.inRange_of_resolved hday htime
    dsimp only at hlocal
    split at hlocal
    · cases hlocal
      exact hrange
    · split at hlocal
      · cases hlocal
        exact hrange
      · cases hlocal
  · cases hlocal
  · cases hlocal
  · simp only [Option.bind_eq_bind, Option.bind_eq_some_iff] at hlocal
    obtain ⟨given, -, hlocal⟩ := hlocal
    obtain ⟨-, hlocal⟩ := Option.ite_none_right_eq_some.mp hlocal
    obtain ⟨filled, hfilled, hlocal⟩ := Option.bind_eq_some_iff.mp hlocal
    split at hlocal
    · next day time hday htime =>
      cases hlocal
      exact (h.withTimestamp hfilled).inRange_of_resolved hday htime
    · cases hlocal

theorem inRange_of_resolveInstant (h : f.resolveInstant = some t) : inRange t.seconds = true := by
  have hlast {offset : Int} (h : (do
      let t ← f.resolveLocal offset
      if -86400 < offset ∧ offset < 86400 then ofSeconds? (t.seconds - offset) t.nanos else none) =
        some t) : inRange t.seconds = true := by
    obtain ⟨shifted, -, h⟩ := Option.bind_eq_some_iff.mp h
    exact inRange_of_ofSeconds? (Option.ite_none_right_eq_some.mp h).2
  unfold resolveInstant at h
  split at h
  · exact hlast h
  · exact hlast h
  · cases h

theorem Bounded.inRange_of_resolve (h : f.Bounded) (hresolve : f.resolve = some t) :
    inRange t.seconds = true := by
  unfold resolve at hresolve
  split at hresolve
  · next hinstant =>
    cases hresolve
    exact inRange_of_resolveInstant hinstant
  · split at hresolve
    · next hlocal =>
      cases hresolve
      exact h.inRange_of_resolveLocal hlocal
    · split at hresolve
      · next day hday =>
        cases hresolve
        exact inRange_instantOf (inYears_of_resolveDay hday) (by decide)
      · cases hresolve

end Fields

end ItemStore.Time

namespace ItemStore.TimeFormat
open Time (Instant inRange)
variable {format : TimeFormat} {t : Instant}

theorem inRange_of_readText {text : String} (h : format.readText text = .ok t) :
    inRange t.seconds = true := by
  unfold readText at h
  split at h
  · next hint =>
    dsimp only at h
    split at h
    · next read hread =>
      cases h
      split at hread
      · obtain ⟨f, -, hread⟩ := Option.bind_eq_some_iff.mp hread
        exact Time.Fields.inRange_of_resolveInstant hread
      · obtain ⟨f, hfields, hread⟩ := Option.bind_eq_some_iff.mp hread
        obtain ⟨layout, -, hfields⟩ := Option.bind_eq_some_iff.mp hfields
        exact (Time.Layout.bounded_of_readFields? hfields).inRange_of_resolve hread
    · cases h
  · cases h

theorem inRange_of_readEpoch {value : Int} (h : format.readEpoch value = .ok t) :
    inRange t.seconds = true := by
  have hseconds {failure : Failure} {read : Option Instant}
      (h : read.elim (.error failure) Except.ok = .ok t)
      (hrange : ∀ u, read = some u → inRange u.seconds = true) : inRange t.seconds = true := by
    cases read with
    | none => cases h
    | some u =>
      cases h
      exact hrange t rfl
  cases format with
  | unixSeconds => exact hseconds h fun u => Time.inRange_of_ofSeconds?
  | unixMillis =>
    refine hseconds h fun u hu => ?_
    obtain ⟨split, -, hu⟩ := Option.bind_eq_some_iff.mp hu
    exact Time.inRange_of_ofSeconds? hu
  | layout hint => cases h

end ItemStore.TimeFormat
