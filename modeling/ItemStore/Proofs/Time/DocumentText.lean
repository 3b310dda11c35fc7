import ItemStore.Proofs.Number.Numerals
import ItemStore.Proofs.Time.CalendarDays
import ItemStore.Time.Reader
import Mathlib.Data.Nat.Digits.Defs

/-! # Times in documents

The text of an instant is read as that instant, in every year of the calendar, unless it lies in a
leap second.
-/
namespace ItemStore.Time
open Number (isDigit natOfDigits natText zeros)
open Text (isBlank trimStart)

/-! ### Padded digits -/

section Padded
variable {width n : Nat} {c : Char}

theorem isDigit_of_mem_padded (h : c ∈ padded width n) : isDigit c = true := by
  rcases List.mem_append.mp h with h | h
  · exact Number.isDigit_of_mem_zeros h
  · exact Number.isDigit_of_mem_natText h

@[simp] theorem natOfDigits_padded (width n : Nat) : natOfDigits (padded width n) = n := by
  simp only [padded, Number.natOfDigits_append, Number.natOfDigits_zeros, Nat.zero_mul, Nat.zero_add,
    Number.natOfDigits_natText]

theorem length_padded (hwidth : 0 < width) (h : n < 10 ^ width) : (padded width n).length = width := by
  have hdigits : (natText n).length ≤ width := Nat.toDigits_length 10 n width hwidth h
  rw [padded, List.length_append, zeros, List.length_replicate]
  omega

theorem padded_ne_nil (width n : Nat) : padded width n ≠ [] :=
  List.append_ne_nil_of_right_ne_nil _ (Number.natText_ne_nil n)

theorem exists_padded_eq_cons (width n : Nat) :
    ∃ c digits, padded width n = c :: digits ∧ isDigit c = true := by
  obtain ⟨c, digits, hcons⟩ := List.exists_cons_of_ne_nil (padded_ne_nil width n)
  have hmem : c ∈ padded width n := by
    rw [hcons]
    exact List.mem_cons_self
  exact ⟨c, digits, hcons, isDigit_of_mem_padded hmem⟩

end Padded

/-! ### Numbers -/

def EndsDigits (rest : List Char) : Prop := ∀ c ∈ rest.head?, isDigit c = false

theorem endsDigits_cons {c : Char} {rest : List Char} (h : isDigit c = false) :
    EndsDigits (c :: rest) := by
  rintro _ ⟨⟩
  exact h

theorem takeNumber?_padded (limit : Option Nat) {width n : Nat} {rest : List Char}
    (hlimit : ∀ most ∈ limit, (padded width n).length ≤ most)
    (hfits : Number.fitsInt64 n = true) (hrest : EndsDigits rest) :
    takeNumber? limit (padded width n ++ rest) = some ((n : Int), rest) := by
  have hrun : (padded width n ++ rest).takeWhile isDigit = padded width n :=
    (Number.span_digits rest (fun _ => isDigit_of_mem_padded) hrest).1
  cases limit with
  | none => simp [takeNumber?, hrun, padded_ne_nil, hfits]
  | some most =>
    have hall : (padded width n).take most = padded width n :=
      List.take_of_length_le (hlimit most rfl)
    simp [takeNumber?, hrun, hall, padded_ne_nil, hfits]

theorem takeComponent?_padded {component : Component} {width n : Nat} {rest : List Char}
    (hlimit : component.width = some width) (hsigned : component.isSigned = false) (hwidth : 0 < width)
    (h : n < 10 ^ width) (hfits : Number.fitsInt64 n = true) (hrest : EndsDigits rest) :
    takeComponent? component (padded width n ++ rest) = some ((n : Int), rest) := by
  have hlength : ∀ most ∈ component.width, (padded width n).length ≤ most := by
    rintro most hmost
    rw [hlimit] at hmost
    cases hmost
    rw [length_padded hwidth h]
  have hnumber := takeNumber?_padded component.width hlength hfits hrest
  unfold takeComponent?
  split
  · next hsign _ => exact absurd (hsigned.symm.trans hsign) (by decide)
  · next hsign _ => exact absurd (hsigned.symm.trans hsign) (by decide)
  · exact hnumber

/-- A year with a sign in front of it where it has not four digits. -/
theorem takeComponent?_yearText {year : Int} {rest : List Char} (hfits : isInt32 year = true)
    (hrest : EndsDigits rest) :
    takeComponent? .year (yearText year ++ rest) = some (year, rest) := by
  have hrange : -2147483648 ≤ year ∧ year ≤ 2147483647 := by
    simpa [isInt32, within] using hfits
  have hword {n : Nat} (h : n ≤ 2147483648) : Number.fitsInt64 n = true := by
    rw [Number.fitsInt64_iff, Number.int64Min, Number.int64Max]
    omega
  have hunbounded (n : Nat) (h : n ≤ 2147483648) :
      takeNumber? none (padded 4 n ++ rest) = some ((n : Int), rest) :=
    takeNumber?_padded none nofun (hword h) hrest
  have habs : year.natAbs ≤ 2147483648 := by omega
  unfold yearText
  split
  · next hshort =>
    have hfour : year.toNat < 10 ^ 4 := by omega
    have hlength : ∀ most ∈ some 4, (padded 4 year.toNat).length ≤ most := by
      rintro most ⟨⟩
      rw [length_padded (by decide) hfour]
    have hnumber := takeNumber?_padded (some 4) hlength (hword (by omega)) hrest
    have hvalue : (year.toNat : Int) = year := Int.toNat_of_nonneg hshort.1
    rw [hvalue] at hnumber
    obtain ⟨c, digits, hcons, hdigit⟩ := exists_padded_eq_cons 4 year.toNat
    rw [hcons] at hnumber ⊢
    unfold takeComponent?
    split
    · next heq =>
      cases heq
      cases hdigit
    · next heq =>
      cases heq
      cases hdigit
    · exact hnumber
  · by_cases hnegative : year < 0
    · have hvalue : -(year.natAbs : Int) = year := by omega
      simp only [if_pos hnegative, List.cons_append, takeComponent?, Component.isSigned,
        hunbounded _ habs, Option.map_some, hvalue]
    · have hvalue : (year.natAbs : Int) = year := by omega
      simp only [if_neg hnegative, List.cons_append, takeComponent?, Component.isSigned,
        hunbounded _ habs, hvalue]

/-! ### Fractions -/

theorem takeFraction?_padded {width n : Nat} {rest : List Char} (hwidth : 0 < width)
    (hnine : width ≤ 9) (h : n < 10 ^ width) (hrest : EndsDigits rest) :
    takeFraction? (padded width n ++ rest) = some (scaledNanos n width, rest) := by
  have hdigits : ∀ c ∈ padded width n, isDigit c = true := fun _ => isDigit_of_mem_padded
  obtain ⟨hrun, hleft⟩ := Number.span_digits rest hdigits hrest
  have hlength := length_padded hwidth h
  have hall : (padded width n).take 9 = padded width n := List.take_of_length_le (by omega)
  simp [takeFraction?, hrun, hleft, hall, padded_ne_nil, hlength]

/-- A fraction in three, six or nine digits is the number of nanoseconds. -/
theorem exists_fractionText {nanos : Nat} (h : nanos < nanosPerSecond) :
    (nanos = 0 ∧ fractionText nanos = []) ∨
      ∃ digits, fractionText nanos = '.' :: digits ∧
        ∀ rest, EndsDigits rest → takeFraction? (digits ++ rest) = some ((nanos : Int), rest) := by
  unfold nanosPerSecond at h
  unfold fractionText
  split
  · next hzero => exact .inl ⟨hzero, rfl⟩
  · right
    split
    · next hmillis =>
      refine ⟨_, rfl, fun rest hrest => ?_⟩
      have hvalue : scaledNanos (nanos / 1000000 : Nat) 3 = nanos := by
        change ((nanos / 1000000 : Nat) : Int) * 1000000 = nanos
        omega
      rw [takeFraction?_padded (by decide) (by decide) (by omega) hrest, hvalue]
    · split
      · next hmicros =>
        refine ⟨_, rfl, fun rest hrest => ?_⟩
        have hvalue : scaledNanos (nanos / 1000 : Nat) 6 = nanos := by
          change ((nanos / 1000 : Nat) : Int) * 1000 = nanos
          omega
        rw [takeFraction?_padded (by decide) (by decide) (by omega) hrest, hvalue]
      · refine ⟨_, rfl, fun rest hrest => ?_⟩
        have hvalue : scaledNanos (nanos : Nat) 9 = nanos := by
          change (nanos : Int) * 1 = nanos
          omega
        rw [takeFraction?_padded (by decide) (by decide) (by omega) hrest, hvalue]

/-- Neither a fraction nor the letter behind it is a digit. -/
theorem endsDigits_fractionText (nanos : Nat) : EndsDigits (fractionText nanos ++ ['Z']) := by
  unfold fractionText
  repeat' split
  all_goals
    rintro _ ⟨⟩
    rfl

/-! ### Fields -/

theorem fitsInt64_of_lt {n : Nat} (h : n < 100) : Number.fitsInt64 n = true := by
  rw [Number.fitsInt64_iff, Number.int64Min, Number.int64Max]
  omega

theorem within_iff {low high value : Int} :
    within low high value = true ↔ low ≤ value ∧ value ≤ high := by
  rw [within, Bool.and_eq_true, decide_eq_true_eq, decide_eq_true_eq]

theorem isInt32_of_inYears {year : Int} (h : inYears year = true) : isInt32 year = true := by
  have hbounds : minYear ≤ year ∧ year ≤ maxYear := by simpa [inYears] using h
  unfold minYear maxYear at hbounds
  rw [isInt32, within_iff]
  omega

theorem agree_none (v : Int) : agree none v = some (some v) := rfl

namespace Fields
variable {f : Fields} {v : Int}

theorem setYear_eq (h : f.year = none) (hv : isInt32 v = true) :
    f.setYear v = some { f with year := some v } := by
  rw [setYear, if_pos hv, h, agree_none, Option.map_some]

theorem setNanos_eq (h : f.nanos = none) (hv : within 0 999999999 v = true) :
    f.setNanos v = some { f with nanos := some v } := by
  rw [setNanos, if_pos hv, h, agree_none, Option.map_some]

end Fields

namespace Component
variable {f : Fields} {v : Int}

theorem set_month (h : f.month = none) (hv : within 1 12 v = true) :
    Component.month.set f v = some { f with month := some v } := by
  change f.setMonth v = _
  rw [Fields.setMonth, if_pos hv, h, agree_none, Option.map_some]

theorem set_day (h : f.day = none) (hv : within 1 31 v = true) :
    Component.day.set f v = some { f with day := some v } := by
  change f.setDay v = _
  rw [Fields.setDay, if_pos hv, h, agree_none, Option.map_some]

theorem set_hour (hhalf : f.halfDay = none) (hhour : f.hourOfHalf = none)
    (hv : within 0 23 v = true) :
    Component.hour.set f v = some { f with halfDay := some (v / 12), hourOfHalf := some (v % 12) } := by
  change f.setHour v = _
  rw [Fields.setHour, if_pos hv, Fields.setHalfDay, hhalf, agree_none, Option.map_some,
    Option.bind_some, Fields.setHourOfHalf, hhour, agree_none, Option.map_some]

theorem set_minute (h : f.minute = none) (hv : within 0 59 v = true) :
    Component.minute.set f v = some { f with minute := some v } := by
  change f.setMinute v = _
  rw [Fields.setMinute, if_pos hv, h, agree_none, Option.map_some]

theorem set_second (h : f.second = none) (hv : within 0 60 v = true) :
    Component.second.set f v = some { f with second := some v } := by
  change f.setSecond v = _
  rw [Fields.setSecond, if_pos hv, h, agree_none, Option.map_some]

end Component

theorem secondOfDay_lt (seconds : Int) : secondOfDay seconds < 86400 := by
  unfold secondOfDay secondsPerDay
  omega

theorem daysInMonth_le (year : Int) (month : Nat) : daysInMonth year month ≤ 31 := by
  unfold daysInMonth
  split
  · split <;> decide
  all_goals decide

/-! ### Steps through the layout -/

theorem trimStart_padded (width n : Nat) (rest : List Char) :
    trimStart (padded width n ++ rest) = padded width n ++ rest := by
  refine Text.trimStart_of_head ?_
  obtain ⟨c, digits, hcons, hdigit⟩ := exists_padded_eq_cons width n
  rw [hcons]
  rintro _ ⟨⟩
  exact Number.not_isBlank_of_isDigit hdigit

theorem trimStart_yearText (year : Int) (rest : List Char) :
    trimStart (yearText year ++ rest) = yearText year ++ rest := by
  unfold yearText
  split
  · exact trimStart_padded _ _ _
  · refine Text.trimStart_of_head ?_
    by_cases hnegative : year < 0
    · rw [if_pos hnegative]
      rintro _ ⟨⟩
      decide
    · rw [if_neg hnegative]
      rintro _ ⟨⟩
      decide

section Steps
variable {f : Fields} {layout : Layout} {rest : List Char}

/-- Once a directive is read, the rest of the layout reads the rest of the text. -/
theorem readStart?_of_read {directive : Directive} {text : List Char} {after : Fields}
    (h : directive.read? f text = some (after, rest)) :
    Layout.readStart? (directive :: layout) f text = Layout.readStart? layout after rest := by
  change (directive.read? f text).bind (fun read => Layout.readStart? layout read.1 read.2) = _
  rw [h, Option.bind_some]

theorem read?_number {component : Component} {text : List Char} {value : Int} {after : Fields}
    (htake : takeComponent? component (trimStart text) = some (value, rest))
    (hset : component.set f value = some after) :
    (Directive.number component).read? f text = some (after, rest) := by
  change (takeComponent? component (trimStart text)).bind
    (fun taken => (component.set f taken.1).map (·, taken.2)) = _
  rw [htake, Option.bind_some, hset, Option.map_some]

theorem readStart?_twoDigits {component : Component} {n : Nat} {after : Fields}
    (hlimit : component.width = some 2) (hsigned : component.isSigned = false) (hn : n < 100)
    (hrest : EndsDigits rest) (hset : component.set f n = some after) :
    Layout.readStart? (.number component :: layout) f (padded 2 n ++ rest) =
      Layout.readStart? layout after rest := by
  have htake := takeComponent?_padded hlimit hsigned (by decide) hn (fitsInt64_of_lt hn) hrest
  rw [← trimStart_padded] at htake
  exact readStart?_of_read (read?_number htake hset)

theorem readStart?_literal (c : Char) :
    Layout.readStart? (.literal c :: layout) f (c :: rest) = Layout.readStart? layout f rest := by
  have hdrop : Text.dropStart? [c] (c :: rest) = some rest := by simp [Text.dropStart?]
  refine readStart?_of_read ?_
  change (Text.dropStart? [c] (c :: rest)).map (f, ·) = _
  rw [hdrop, Option.map_some]

theorem readStart?_blank (h : ∀ c ∈ rest.head?, isBlank c = false) :
    Layout.readStart? (.blank :: layout) f rest = Layout.readStart? layout f rest := by
  refine readStart?_of_read ?_
  change some (f, trimStart rest) = _
  rw [Text.trimStart_of_head h]

theorem readStart?_blank_cons {c : Char} (h : isBlank c = false) :
    Layout.readStart? (.blank :: layout) f (c :: rest) = Layout.readStart? layout f (c :: rest) := by
  refine readStart?_blank ?_
  rintro _ ⟨⟩
  exact h

theorem readStart?_year {year : Int} {after : Fields} (hfits : isInt32 year = true)
    (hrest : EndsDigits rest) (hset : f.setYear year = some after) :
    Layout.readStart? (.number .year :: layout) f (yearText year ++ rest) =
      Layout.readStart? layout after rest := by
  have htake := takeComponent?_yearText hfits hrest
  rw [← trimStart_yearText] at htake
  exact readStart?_of_read (read?_number htake hset)

/-- A fraction is put into the fields, and no fraction leaves them as they are. -/
theorem readStart?_fraction {nanos : Nat} (h : nanos < nanosPerSecond) (hf : f.nanos = none) :
    Layout.readStart? (.fraction :: layout) f (fractionText nanos ++ 'Z' :: rest) =
      Layout.readStart? layout { f with nanos := if nanos = 0 then none else some (nanos : Int) }
        ('Z' :: rest) := by
  have hread : Directive.read? .fraction f (fractionText nanos ++ 'Z' :: rest) =
      some ({ f with nanos := if nanos = 0 then none else some (nanos : Int) }, 'Z' :: rest) := by
    by_cases hzero : nanos = 0
    · rw [if_pos hzero, ← hf, fractionText, if_pos hzero]
      rfl
    · obtain ⟨digits, htext, htake⟩ := (exists_fractionText h).resolve_left (fun h => hzero h.1)
      have hwithin : within 0 999999999 nanos = true := by
        unfold nanosPerSecond at h
        exact within_iff.mpr (by omega)
      rw [if_neg hzero, htext, List.cons_append]
      change (takeFraction? (digits ++ 'Z' :: rest)).bind
        (fun taken => (f.setNanos taken.1).map (·, taken.2)) = _
      rw [htake ('Z' :: rest) (endsDigits_cons rfl), Option.bind_some, Fields.setNanos_eq hf hwithin,
        Option.map_some]
  exact readStart?_of_read hread

theorem readStart?_dateEnd :
    Layout.readStart? (.dateEnd :: layout) f ('T' :: rest) = Layout.readStart? layout f rest := rfl

theorem readStart?_universal (hf : f.offset = none) :
    Layout.readStart? (.offset .named :: layout) f ('Z' :: rest) =
      Layout.readStart? layout { f with offset := some 0 } rest := by
  refine readStart?_of_read ?_
  change (f.setOffset 0).map (·, rest) = _
  rw [Fields.setOffset, hf, agree_none, Option.map_some, Option.map_some]

end Steps

def Instant.fields (t : Instant) : Fields :=
  let date := dateOf (dayOf t.seconds)
  let time := secondOfDay t.seconds
  { year := some date.year
    month := some (date.month : Int)
    day := some (date.day : Int)
    halfDay := some ((time / 3600 : Nat) / 12 : Int)
    hourOfHalf := some ((time / 3600 : Nat) % 12 : Int)
    minute := some ((time / 60 % 60 : Nat) : Int)
    second := some ((time % 60 : Nat) : Int)
    nanos := if t.nanos = 0 then none else some (t.nanos : Int)
    offset := some 0 }

theorem readStart?_text {t : Instant} (hrange : inRange t.seconds = true)
    (hnanos : t.nanos < nanosPerSecond) :
    Layout.readStart? (Layout.document ++ [.blank]) {} t.text = some (t.fields, []) := by
  obtain ⟨month, dayOfMonth, hdate, hfirst, hlast, hpos, hmonth, -⟩ := dateOf_spec (dayOf t.seconds)
  have hthirtyone := daysInMonth_le (yearOf (dayOf t.seconds)) month
  have hyear := isInt32_of_inYears (inRange_iff.mp hrange)
  have htime := secondOfDay_lt t.seconds
  unfold Instant.text Instant.fields
  rw [hdate]
  generalize yearOf (dayOf t.seconds) = year at *
  generalize secondOfDay t.seconds = time at *
  have hsecond : time % 60 + t.nanos / nanosPerSecond = time % 60 := by
    rw [Nat.div_eq_of_lt hnanos, Nat.add_zero]
  dsimp only
  rw [hsecond, Nat.mod_eq_of_lt hnanos]
  simp only [Layout.document, List.append_assoc, List.cons_append, List.nil_append]
  rw [readStart?_year hyear (endsDigits_cons rfl) (Fields.setYear_eq rfl hyear),
    readStart?_blank_cons rfl, readStart?_literal,
    readStart?_twoDigits rfl rfl (by omega) (endsDigits_cons rfl)
      (Component.set_month rfl (within_iff.mpr (by omega))),
    readStart?_blank_cons rfl, readStart?_literal,
    readStart?_twoDigits rfl rfl (by omega) (endsDigits_cons rfl)
      (Component.set_day rfl (within_iff.mpr (by omega))),
    readStart?_dateEnd,
    readStart?_twoDigits rfl rfl (by omega) (endsDigits_cons rfl)
      (Component.set_hour rfl rfl (within_iff.mpr (by omega))),
    readStart?_blank_cons rfl, readStart?_literal,
    readStart?_twoDigits rfl rfl (by omega) (endsDigits_cons rfl)
      (Component.set_minute rfl (within_iff.mpr (by omega))),
    readStart?_blank_cons rfl, readStart?_literal,
    readStart?_twoDigits rfl rfl (by omega) (endsDigits_fractionText t.nanos)
      (Component.set_second rfl (within_iff.mpr (by omega))),
    readStart?_fraction hnanos rfl, readStart?_blank_cons (by decide), readStart?_universal rfl,
    readStart?_blank (by rintro _ ⟨⟩)]
  rfl

/-! ### The instant of the fields -/

theorem resolveDay_fields {t : Instant} (hrange : inRange t.seconds = true) :
    t.fields.resolveDay = .ok (dayOf t.seconds) := by
  have hday := dayOfDate?_dateOf (inRange_iff.mp hrange)
  have hcandidate : t.fields.candidateDay = .ok (dayOf t.seconds) := by
    simp [Fields.candidateDay, Instant.fields, resolveYear, hday, Fields.orWrong, bind, Except.bind]
  rw [Fields.resolveDay, hcandidate]
  simp [bind, Except.bind, Fields.fitsDate, Fields.fitsIsoWeek, Fields.fitsWeeks, Instant.fields, fits,
    fitsYear]

theorem resolveTime_fields (t : Instant) :
    t.fields.resolveTime = .ok (secondOfDay t.seconds, t.nanos) := by
  have htime := secondOfDay_lt t.seconds
  have hsecond : ¬ ((secondOfDay t.seconds % 60 : Nat) : Int) = 60 := by omega
  have hstart :
      (((((secondOfDay t.seconds / 3600 : Nat) / 12 : Int) * 12 + (secondOfDay t.seconds / 3600 : Nat) % 12) *
          60 + (secondOfDay t.seconds / 60 % 60 : Nat)) * 60 +
        min ((secondOfDay t.seconds % 60 : Nat) : Int) 59).toNat = secondOfDay t.seconds := by
    omega
  unfold Fields.resolveTime Instant.fields
  dsimp only [Option.getD_some]
  rw [hstart, if_neg hsecond]
  by_cases hzero : t.nanos = 0
  · simp [hzero]
  · simp [hzero]

theorem instantOf_dayOf (t : Instant) :
    Fields.instantOf (dayOf t.seconds) (secondOfDay t.seconds, t.nanos) = t := by
  have hseconds : dayOf t.seconds * secondsPerDay + (secondOfDay t.seconds : Nat) = t.seconds := by
    unfold dayOf secondOfDay secondsPerDay
    omega
  rw [Fields.instantOf, hseconds]

theorem ofDocument?_render {t : Instant} (hrange : inRange t.seconds = true)
    (hnanos : t.nanos < nanosPerSecond) : ofDocument? t.render = some t := by
  have hread : Layout.readFields? (Layout.document ++ [.blank]) t.render.toList = some t.fields := by
    rw [Instant.render, String.toList_ofList, Layout.readFields?, readStart?_text hrange hnanos]
  have hlocal : t.fields.resolveLocal 0 = some t := by
    have htimestamp : t.fields.timestamp = none := rfl
    rw [Fields.resolveLocal, resolveDay_fields hrange, resolveTime_fields]
    simp only [htimestamp, instantOf_dayOf]
  have hoffset : t.fields.offset = some 0 := rfl
  rw [ofDocument?, hread]
  simp [Fields.resolveInstant, hoffset, hlocal, ofSeconds?, hrange]

end ItemStore.Time
