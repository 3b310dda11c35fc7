import ItemStore.Proofs.Time.CalendarDays
import ItemStore.Time.Format

/-! # Instants by the number of milliseconds or seconds

Milliseconds are split into a second and the nanoseconds after it in words of 64 bits. No step leaves
the words, the second is the one at or before the instant, and so a number is read as the instant that
it counts to, as far as the calendar goes.
-/
namespace ItemStore.Time

/-- The nanoseconds from the start of 1970 to an instant. -/
def Instant.sinceEpoch (t : Instant) : Int := t.seconds * nanosPerSecond + t.nanos

theorem fitsInt64_toInt (v : Int64) : Number.fitsInt64 v.toInt = true := by
  have hlow : -2 ^ 63 ≤ v.toInt := v.le_toInt
  have hhigh : v.toInt < 2 ^ 63 := v.toInt_lt
  rw [Number.fitsInt64_iff, Number.int64Min, Number.int64Max]
  omega

theorem word64?_eq {i : Int} (hlow : Number.int64Min ≤ i) (hhigh : i ≤ Number.int64Max) :
    word64? i = some i := if_pos (Number.fitsInt64_iff.mpr ⟨hlow, hhigh⟩)

theorem nat32?_eq {i : Int} (hlow : 0 ≤ i) (hhigh : i ≤ 4294967295) : nat32? i = some i.toNat := by
  rw [nat32?, if_pos ⟨hlow, by omega⟩]

/-- Rounding toward zero is one too high for a negative number with a rest. -/
theorem tdiv_tmod_thousand (i : Int) :
    (0 ≤ i.tmod 1000 ∧ i.tdiv 1000 = i / 1000 ∧ i.tmod 1000 = i % 1000) ∨
      (i.tmod 1000 < 0 ∧ i.tdiv 1000 = i / 1000 + 1 ∧ i.tmod 1000 = i % 1000 - 1000) := by
  rw [Int.tdiv_eq_ediv, Int.tmod_eq_emod]
  by_cases h : 0 ≤ i ∨ (1000 : Int) ∣ i
  · left
    have hrest : 0 ≤ i % 1000 := Int.emod_nonneg i (by decide)
    simp [h, hrest]
  · right
    have hrest : i % 1000 < 1000 := Int.emod_lt_of_pos i (by decide)
    have hsign : Int.sign 1000 = 1 := rfl
    have habs : (Int.natAbs 1000 : Int) = 1000 := rfl
    simp only [h, if_false, hsign, habs]
    exact ⟨by omega, trivial, trivial⟩

/-- The second at or before the instant, and what is left in nanoseconds: no step leaves the words. -/
theorem splitMillis?_eq {millis : Int} (h : Number.fitsInt64 millis = true) :
    splitMillis? millis = some (millis / 1000, (millis % 1000).toNat * 1000000) := by
  have hsecond : Number.int64Min < millis / 1000 ∧ millis / 1000 < Number.int64Max := by
    rw [Number.fitsInt64_iff] at h
    unfold Number.int64Min Number.int64Max at *
    omega
  have hlow : Number.int64Min ≤ -1000000000 := by decide
  have hhigh : 1000000000 ≤ Number.int64Max := by decide
  have hcarry : (nanosPerSecond : Int) = 1000000000 := rfl
  have hleft : 0 ≤ millis % 1000 := Int.emod_nonneg _ (by decide)
  have hleftover : millis % 1000 < 1000 := Int.emod_lt_of_pos _ (by decide)
  rcases tdiv_tmod_thousand millis with ⟨hsign, hdiv, hmod⟩ | ⟨hsign, hdiv, hmod⟩
  · rw [splitMillis?]
    have hrest := word64?_eq (i := millis.tmod 1000) (by omega) (by omega)
    have hnanos := word64?_eq (i := millis.tmod 1000 * 1000000) (by omega) (by omega)
    have hwhole := word64?_eq (i := millis.tdiv 1000) (by omega) (by omega)
    have hword := nat32?_eq (i := millis.tmod 1000 * 1000000) (by omega) (by omega)
    have hpositive : ¬ millis.tmod 1000 * 1000000 < 0 := by omega
    have hsame : (millis.tmod 1000 * 1000000).toNat = (millis % 1000).toNat * 1000000 := by omega
    simp only [hrest, hnanos, hwhole, hword, hpositive, if_false, Option.bind_eq_bind,
      Option.bind_some, hsame]
    rw [hdiv]
  · rw [splitMillis?]
    have hrest := word64?_eq (i := millis.tmod 1000) (by omega) (by omega)
    have hnanos := word64?_eq (i := millis.tmod 1000 * 1000000) (by omega) (by omega)
    have hwhole := word64?_eq (i := millis.tdiv 1000) (by omega) (by omega)
    have hbefore := word64?_eq (i := millis.tdiv 1000 - 1) (by omega) (by omega)
    have hcarried := word64?_eq (i := millis.tmod 1000 * 1000000 + nanosPerSecond) (by omega) (by omega)
    have hword := nat32?_eq (i := millis.tmod 1000 * 1000000 + nanosPerSecond) (by omega) (by omega)
    have hnegative : millis.tmod 1000 * 1000000 < 0 := by omega
    have hsame : (millis.tmod 1000 * 1000000 + nanosPerSecond).toNat =
        (millis % 1000).toNat * 1000000 := by
      omega
    have hfloor : millis.tdiv 1000 - 1 = millis / 1000 := by omega
    simp only [hrest, hnanos, hwhole, hbefore, hcarried, hword, hnegative, if_true,
      Option.bind_eq_bind, Option.bind_some, hsame]
    rw [hfloor]

theorem ofMillis?_eq {millis : Int} (h : Number.fitsInt64 millis = true) :
    ofMillis? millis = ofSeconds? (millis / 1000) ((millis % 1000).toNat * 1000000) := by
  rw [ofMillis?, splitMillis?_eq h, Option.bind_some]

end ItemStore.Time

namespace ItemStore.TimeFormat
open Time (Instant dayOf yearOf inYears splitMillis?)

def outOfRange (value : Int) : Failure :=
  .decode ("timestamp " ++ String.ofList (Number.intText value) ++ " is out of range")

theorem elim_ofSeconds? (seconds : Int) (nanos : Nat) (failure : Failure) :
    (Time.ofSeconds? seconds nanos).elim (.error failure) Except.ok =
      if inYears (yearOf (dayOf seconds)) then .ok ⟨seconds, nanos⟩ else .error failure := by
  rw [Time.ofSeconds?]
  by_cases h : Time.inRange seconds = true
  · rw [if_pos h, if_pos (Time.inRange_iff.mp h), Option.elim_some]
  · rw [if_neg h, if_neg (mt Time.inRange_iff.mpr h), Option.elim_none]

theorem readEpoch_millis {millis : Int} (h : Number.fitsInt64 millis = true) :
    unixMillis.readEpoch millis =
      if inYears (yearOf (dayOf (millis / 1000))) then
        .ok ⟨millis / 1000, (millis % 1000).toNat * 1000000⟩
      else .error (outOfRange millis) := by
  have hread : unixMillis.readEpoch millis =
      (Time.ofMillis? millis).elim (.error (outOfRange millis)) .ok := rfl
  rw [hread, Time.ofMillis?_eq h, elim_ofSeconds?]

theorem readEpoch_seconds (seconds : Int) :
    unixSeconds.readEpoch seconds =
      if inYears (yearOf (dayOf seconds)) then .ok ⟨seconds, 0⟩ else .error (outOfRange seconds) :=
  elim_ofSeconds? seconds 0 _

theorem sinceEpoch_millis (millis : Int) :
    (Instant.mk (millis / 1000) ((millis % 1000).toNat * 1000000)).sinceEpoch = millis * 1000000 := by
  have hcarry : (Time.nanosPerSecond : Int) = 1000000000 := rfl
  simp only [Instant.sinceEpoch, hcarry]
  omega

theorem sinceEpoch_seconds (seconds : Int) :
    (Instant.mk seconds 0).sinceEpoch = seconds * 1000000000 := Int.add_zero _

theorem sinceEpoch_of_readEpoch_millis {millis : Int} {t : Instant}
    (h : Number.fitsInt64 millis = true) (hread : unixMillis.readEpoch millis = .ok t) :
    t.sinceEpoch = millis * 1000000 := by
  rw [readEpoch_millis h] at hread
  split at hread
  · cases hread
    exact sinceEpoch_millis millis
  · cases hread

theorem sinceEpoch_of_readEpoch_seconds {seconds : Int} {t : Instant}
    (hread : unixSeconds.readEpoch seconds = .ok t) : t.sinceEpoch = seconds * 1000000000 := by
  rw [readEpoch_seconds] at hread
  split at hread
  · cases hread
    exact sinceEpoch_seconds seconds
  · cases hread

/-- A number of milliseconds in a word of 64 bits is read as the instant that many milliseconds after
the epoch, exactly and also before it, if the calendar has the year of that instant, and no step of
the computation leaves the words; a number of seconds in the same way. A greater number is a later
instant, and a thousand milliseconds are a second. -/
theorem readEpoch_counts :
    (∀ v : Int64, ∃ t : Instant, t.sinceEpoch = v.toInt * 1000000 ∧
      (∃ rest ≤ 999, t.nanos = rest * 1000000) ∧
      splitMillis? v.toInt = some (t.seconds, t.nanos) ∧
      unixMillis.readEpoch v.toInt =
        if inYears (yearOf (dayOf t.seconds)) then .ok t else .error (outOfRange v.toInt)) ∧
    (∀ v : Int64, ∃ t : Instant, t.sinceEpoch = v.toInt * 1000000000 ∧ t.nanos = 0 ∧
      unixSeconds.readEpoch v.toInt =
        if inYears (yearOf (dayOf t.seconds)) then .ok t else .error (outOfRange v.toInt)) ∧
    (∀ (format : TimeFormat) (v w : Int64) (t u : Instant), format.isUnix = true → v < w →
      format.readEpoch v.toInt = .ok t → format.readEpoch w.toInt = .ok u →
      t.sinceEpoch < u.sinceEpoch) ∧
    ∀ v k : Int64, v.toInt = 1000 * k.toInt →
      (unixMillis.readEpoch v.toInt).toOption = (unixSeconds.readEpoch k.toInt).toOption := by
  refine ⟨?_, ?_, ?_, ?_⟩
  · intro v
    have hfits := Time.fitsInt64_toInt v
    have hsplit := Time.splitMillis?_eq hfits
    have hread := readEpoch_millis hfits
    have hsince := sinceEpoch_millis v.toInt
    generalize hnanos : (v.toInt % 1000).toNat * 1000000 = nanos at hsplit hread hsince
    exact ⟨⟨v.toInt / 1000, nanos⟩, hsince, ⟨_, by omega, hnanos.symm⟩, hsplit, hread⟩
  · intro v
    exact ⟨_, sinceEpoch_seconds v.toInt, rfl, readEpoch_seconds v.toInt⟩
  · intro format v w t u hunix hlt ht hu
    rw [Int64.lt_iff_toInt_lt] at hlt
    cases format with
    | unixSeconds =>
      rw [sinceEpoch_of_readEpoch_seconds ht, sinceEpoch_of_readEpoch_seconds hu]
      omega
    | unixMillis =>
      rw [sinceEpoch_of_readEpoch_millis (Time.fitsInt64_toInt v) ht,
        sinceEpoch_of_readEpoch_millis (Time.fitsInt64_toInt w) hu]
      omega
    | layout hint => cases hunix
  · intro v k hk
    have hsecond : v.toInt / 1000 = k.toInt := by omega
    have hrest : (v.toInt % 1000).toNat * 1000000 = 0 := by omega
    have hnone (failure : Failure) :
        (Except.error failure : Except Failure Instant).toOption = none := rfl
    rw [readEpoch_millis (Time.fitsInt64_toInt v), readEpoch_seconds, hsecond, hrest]
    by_cases hyear : inYears (yearOf (dayOf k.toInt)) = true
    · rw [if_pos hyear, if_pos hyear]
    · rw [if_neg hyear, if_neg hyear, hnone, hnone]

/-- One and a half seconds before the epoch and one second before it, and two seconds in either
count. -/
theorem readEpoch_counts_before_epoch :
    unixMillis.isUnix = true ∧ (-1500 : Int64) < -1000 ∧
    unixMillis.readEpoch (-1500) = .ok ⟨-2, 500000000⟩ ∧ unixMillis.readEpoch (-1000) = .ok ⟨-1, 0⟩ ∧
    (⟨-2, 500000000⟩ : Instant).sinceEpoch < (⟨-1, 0⟩ : Instant).sinceEpoch ∧
    (-2000 : Int64).toInt = 1000 * (-2 : Int64).toInt ∧
    (unixMillis.readEpoch (-2000)).toOption = (unixSeconds.readEpoch (-2)).toOption := by
  have hearlier : unixMillis.readEpoch (-1500) = .ok ⟨-2, 500000000⟩ := by rfl
  have hlater : unixMillis.readEpoch (-1000) = .ok ⟨-1, 0⟩ := by rfl
  have hlt : (-1500 : Int64) < -1000 := by decide
  have hsame : (-2000 : Int64).toInt = 1000 * (-2 : Int64).toInt := by decide
  refine ⟨rfl, hlt, hearlier, hlater, ?_, hsame, ?_⟩
  · exact readEpoch_counts.2.2.1 unixMillis (-1500) (-1000) _ _ rfl hlt hearlier hlater
  · exact readEpoch_counts.2.2.2 (-2000) (-2) hsame

end ItemStore.TimeFormat
