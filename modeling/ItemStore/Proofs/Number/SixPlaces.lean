import ItemStore.Number.Trimmed
import ItemStore.Proofs.Number.Numerals

/-! # Six decimal places

The text of a value with a fixed number of places is a numeral of the nearest decimal with that many
places, and it stays a numeral of that decimal without its last zeros. It is read as the value again
if any decimal with as many places is.
-/
namespace ItemStore.Number

attribute [local instance (2000)] instPowNat

section DropEnd
variable {c : Char} {front back text : List Char}

theorem dropEnd_append (c : Char) (front back : List Char) :
    dropEnd c (front ++ back) =
      if dropEnd c back = [] then dropEnd c front else front ++ dropEnd c back := by
  rw [dropEnd, dropEnd, dropEnd, List.reverse_append, List.dropWhile_append]
  by_cases h : back.reverse.dropWhile (· == c) = [] <;> simp [h]

theorem dropEnd_of_not_mem (h : c ∉ text) : dropEnd c text = text := by
  have hdrop : text.reverse.dropWhile (· == c) = text.reverse := by
    cases hrev : text.reverse with
    | nil => rfl
    | cons last rest =>
      have hlast : last ≠ c := by
        rintro rfl
        exact h (List.mem_reverse.mp (hrev ▸ List.mem_cons_self))
      exact List.dropWhile_cons_of_neg (by simpa using hlast)
  rw [dropEnd, hdrop, List.reverse_reverse]

theorem exists_append_zeros (text : List Char) : ∃ k, text = dropEnd '0' text ++ zeros k := by
  refine ⟨(text.reverse.takeWhile (· == '0')).length, ?_⟩
  have hzeros : (text.reverse.takeWhile (· == '0')).reverse =
      zeros (text.reverse.takeWhile (· == '0')).length := by
    rw [zeros, List.eq_replicate_iff]
    refine ⟨List.length_reverse, ?_⟩
    intro c hc
    simpa using List.all_eq_true.mp List.all_takeWhile c (List.mem_reverse.mp hc)
  rw [dropEnd, ← hzeros, ← List.reverse_append, List.takeWhile_append_dropWhile,
    List.reverse_reverse]

end DropEnd

namespace PlainNumeral

def trimmed (p : PlainNumeral) : PlainNumeral where
  negative := p.negative
  whole := p.whole
  fraction := dropEnd '0' p.fraction
  whole_ne_nil := p.whole_ne_nil
  isDigit_whole := p.isDigit_whole
  isDigit_fraction c hc := by
    obtain ⟨k, hk⟩ := exists_append_zeros p.fraction
    exact p.isDigit_fraction c (hk ▸ List.mem_append_left _ hc)

variable (p : PlainNumeral)

/-- A numeral is the same number without the zeros at its end. -/
theorem exists_coefficient_trimmed :
    ∃ k, p.places = p.trimmed.places + k ∧ p.coefficient = p.trimmed.coefficient * 10 ^ k := by
  obtain ⟨k, hk⟩ := exists_append_zeros p.fraction
  have hlength : (zeros k).length = k := List.length_replicate
  refine ⟨k, ?_, ?_⟩
  · rw [places, hk, List.length_append, hlength]
    rfl
  · rw [coefficient, hk, ← List.append_assoc, natOfDigits_append, hlength, natOfDigits_zeros,
      Nat.add_zero]
    rfl

/-- Taking the zeros from the end of the text and then the point leaves the numeral without them. -/
theorem dropEnd_text (h : p.fraction ≠ []) : dropEnd '.' (dropEnd '0' p.text) = p.trimmed.text := by
  have hpoint {cs : List Char} (hcs : ∀ c ∈ cs, isDigit c = true) : '.' ∉ cs := by
    intro hmem
    cases hcs '.' hmem
  have hfront : '.' ∉ Binary64.signText p.negative ++ p.whole := by
    rw [List.mem_append, not_or]
    exact ⟨by cases p.negative <;> simp [Binary64.signText], hpoint p.isDigit_whole⟩
  have hfraction : '.' ∉ dropEnd '0' p.fraction := hpoint p.trimmed.isDigit_fraction
  have hend : dropEnd '.' ['.'] = [] := rfl
  have hzero : dropEnd '0' ['.'] = ['.'] := rfl
  have htext : p.text = (Binary64.signText p.negative ++ p.whole ++ ['.']) ++ p.fraction := by
    simp [text, body, h]
  have hzeros : dropEnd '0' p.text =
      (Binary64.signText p.negative ++ p.whole ++ ['.']) ++ dropEnd '0' p.fraction := by
    rw [htext, dropEnd_append]
    split
    · next hnone => rw [hnone, List.append_nil, dropEnd_append, hzero, if_neg (by simp)]
    · rfl
  rw [hzeros, dropEnd_append, dropEnd_of_not_mem hfraction]
  by_cases hnone : dropEnd '0' p.fraction = []
  · rw [if_pos hnone, dropEnd_append, hend, if_pos rfl, dropEnd_of_not_mem hfront]
    simp [text, body, trimmed, hnone]
  · rw [if_neg hnone]
    simp [text, body, trimmed, hnone]

theorem readFloat?_eq_finite_iff {negative : Bool} {m : Magnitude} {k places : Nat}
    (h : p.places + k = places) :
    readFloat? p.text = some (.finite negative m) ↔
      p.negative = negative ∧
        m.identifiedBy (4 * (p.coefficient * 10 ^ k * Binary64.oneUnits)) (10 ^ places) = true := by
  have hten (k : Nat) : 0 < 10 ^ k := Nat.pow_pos (by decide)
  have hscale : 4 * (p.coefficient * 10 ^ k * Binary64.oneUnits) =
      4 * (p.coefficient * Binary64.oneUnits) * 10 ^ k := by grind
  rw [p.readFloat?_text, Option.some_inj, ← h, hscale, Nat.pow_add, Magnitude.identifiedBy_mul (hten k)]
  constructor
  · intro hread
    have hsign : p.negative = negative := by
      rcases Binary64.ofRatio_cases (hten p.places) (p.coefficient * Binary64.oneUnits) p.negative with
        ⟨x, hx, -⟩ | ⟨hx, -⟩
      · rw [hx] at hread
        cases hread
        rfl
      · rw [hx] at hread
        cases hread
    exact ⟨hsign, Binary64.identifiedBy_of_ofRatio (hten _) hread⟩
  · rintro ⟨rfl, hidentified⟩
    exact Binary64.ofRatio_of_identifiedBy (hten _) _ hidentified

end PlainNumeral

namespace Magnitude

/-- If a multiple of a millionth identifies a value then the nearest one does. Where the interval of
the value is not symmetric, the value is a power of two, and it is a whole number or its interval is
smaller than a millionth. -/
theorem identifiedBy_nearest (m : Magnitude) {k : Nat}
    (h : m.identifiedBy (4 * (k * Binary64.oneUnits)) (10 ^ (6 : Nat)) = true) :
    m.identifiedBy (4 * (roundDiv (m.units * 10 ^ (6 : Nat)) Binary64.oneUnits .toEven *
      Binary64.oneUnits)) (10 ^ (6 : Nat)) = true := by
  have hone := Binary64.oneUnits_pos
  by_cases hnarrow : m.Narrow
  · by_cases hwhole : Binary64.oneExponent ≤ 52 + m.exponent
    · have hunits : m.units * 10 ^ (6 : Nat) =
          2 ^ (52 + m.exponent - Binary64.oneExponent) * 10 ^ (6 : Nat) * Binary64.oneUnits := by
        rw [Binary64.oneUnits, Nat.mul_right_comm, ← Nat.pow_add, Nat.sub_add_cancel hwhole, units,
          hnarrow.1, Nat.pow_add]
      rw [hunits, roundDiv_mul hone, ← hunits, ← Nat.mul_assoc]
      exact m.identifiedBy_quarters (by decide)
    · have hsmall : 10 ^ (6 : Nat) * 2 ^ m.exponent < Binary64.oneUnits :=
        calc 10 ^ (6 : Nat) * 2 ^ m.exponent < 2 ^ (20 : Nat) * 2 ^ m.exponent :=
              Nat.mul_lt_mul_of_pos_right (by decide) (Nat.two_pow_pos _)
          _ = 2 ^ (20 + m.exponent) := (Nat.pow_add 2 20 m.exponent).symm
          _ ≤ Binary64.oneUnits := Nat.pow_le_pow_right (by decide) (by omega)
      obtain ⟨hlow, hhigh⟩ := (identifiedBy_iff_of_narrow hnarrow).mp h
      have hround : roundDiv (m.units * 10 ^ (6 : Nat)) Binary64.oneUnits .toEven = k := by
        rw [roundDiv_eq_iff hone, units_mul, hnarrow.1, Within]
        split <;> omega
      rw [hround]
      exact h
  · apply identifiedBy_of_nearer hnarrow h
    have hnearest := roundDiv_nearest hone (m.units * 10 ^ (6 : Nat)) .toEven k
    rwa [Int.natCast_mul, Int.natCast_mul] at *

end Magnitude

namespace Binary64

theorem text_ofScaled_roundDiv (negative : Bool) (m : Magnitude) (places : Nat) :
    (PlainNumeral.ofScaled negative (roundDiv (m.units * 10 ^ places) oneUnits .toEven) places).text =
      (finite negative m).fixedText places := by
  rw [PlainNumeral.ofScaled, PlainNumeral.text_ofDigits, ← oneUnits_eq_pow]
  rfl

/-- With six places and without the zeros at its end, a value is written as the nearest multiple of a
millionth. -/
theorem exists_numeral_trimmedText (negative : Bool) (m : Magnitude) :
    ∃ p : PlainNumeral, p.text = trimmedText (finite negative m) ∧ p.negative = negative ∧
      ∃ k, p.places + k = 6 ∧
        p.coefficient * 10 ^ k = roundDiv (m.units * 10 ^ (6 : Nat)) oneUnits .toEven := by
  let p := PlainNumeral.ofScaled negative (roundDiv (m.units * 10 ^ (6 : Nat)) oneUnits .toEven) 6
  have hplaces : p.places = 6 := PlainNumeral.places_ofScaled _ _ _
  have htext : p.text = (finite negative m).fixedText 6 := text_ofScaled_roundDiv negative m 6
  have hfraction : p.fraction ≠ [] := by
    intro hnil
    simp [PlainNumeral.places, hnil] at hplaces
  obtain ⟨k, hk, hvalue⟩ := p.exists_coefficient_trimmed
  refine ⟨p.trimmed, ?_, rfl, k, by omega, ?_⟩
  · have hnonempty : p.trimmed.text ≠ [] := by
      simp [PlainNumeral.text, PlainNumeral.body, p.trimmed.whole_ne_nil]
    rw [trimmedText, ← htext, p.dropEnd_text hfraction]
    simp [hnonempty]
  · rw [← hvalue]
    exact PlainNumeral.coefficient_ofScaled _ _ _

/-- With six places a value is read back if any numeral with at most six places is read as it. -/
theorem readFloat?_of_nearest {negative : Bool} {m : Magnitude} {p q : PlainNumeral} {k : Nat}
    (hsign : p.negative = negative) (hplaces : p.places + k = 6)
    (hnearest : p.coefficient * 10 ^ k = roundDiv (m.units * 10 ^ (6 : Nat)) oneUnits .toEven)
    (hq : q.places ≤ 6) (hread : readFloat? q.text = some (.finite negative m)) :
    readFloat? p.text = some (.finite negative m) := by
  obtain ⟨-, hidentified⟩ :=
    (q.readFloat?_eq_finite_iff (k := 6 - q.places) (Nat.add_sub_cancel' hq)).mp hread
  refine (p.readFloat?_eq_finite_iff hplaces).mpr ⟨hsign, ?_⟩
  rw [hnearest]
  exact m.identifiedBy_nearest hidentified

end Binary64

end ItemStore.Number
