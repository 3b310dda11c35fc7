import ItemStore.Proofs.Number.SixPlaces
import ItemStore.Upload.Coercion
import Mathlib.Algebra.Order.Field.Basic
import Mathlib.Algebra.Order.Field.Rat
import Mathlib.Data.Rat.Cast.Order

/-! # Numbers under a number field

A signed 64-bit integer is stored with its digits, and a float as the decimal with six places that is
nearest to it. So a float is stored without loss if six places can tell it from all others.
-/
namespace ItemStore

attribute [local instance (2000)] instPowNat

namespace Number

def PlainNumeral.value (p : PlainNumeral) : ℚ :=
  Binary64.signed p.negative p.coefficient / 10 ^ p.places

def Binary64.value : Binary64 → ℚ
  | .finite negative m => Binary64.signed negative m.units / Binary64.oneUnits
  | _ => 0

theorem abs_div_sub_div {a u : ℤ} {c d : ℕ} (hc : 0 < c) (hd : 0 < d) :
    |(a : ℚ) / c - u / d| = (a * d - u * c).natAbs / (c * d) := by
  have hc' : (0 : ℚ) < c := Nat.cast_pos.mpr hc
  have hd' : (0 : ℚ) < d := Nat.cast_pos.mpr hd
  rw [div_sub_div _ _ hc'.ne' hd'.ne', abs_div, abs_of_pos (mul_pos hc' hd'), mul_comm (c : ℚ) u,
    Nat.cast_natAbs]
  norm_cast

theorem PlainNumeral.value_eq {p : PlainNumeral} {k places : ℕ} (h : p.places + k = places) :
    p.value = (Binary64.signed p.negative (p.coefficient * 10 ^ k) : ℤ) / (10 ^ places : ℕ) := by
  have hk : (10 ^ k : ℚ) ≠ 0 := pow_ne_zero k (by norm_num)
  rw [value, Binary64.signed_mul, ← h]
  push_cast
  rw [pow_add, mul_div_mul_right _ _ hk]

theorem PlainNumeral.value_ofInt (i : ℤ) : (PlainNumeral.ofInt i).value = i := by
  simp [value, PlainNumeral.ofInt, coefficient, places]

/-- A sign does not change distances. -/
theorem natAbs_sub_signed (negative : Bool) (k : ℤ) (b c d : ℕ) :
    (k * d - Binary64.signed negative b * c).natAbs =
      ((if negative then -k else k) * d - (b * c : ℕ)).natAbs := by
  cases negative <;> simp only [Binary64.signed, Bool.false_eq_true, if_true, if_false,
    Int.natCast_mul, Int.neg_mul]
  omega

/-- With six places a finite value is written as the nearest multiple of a millionth, which of two
equally near ones is the even one. -/
theorem exists_numeral_nearest (negative : Bool) (m : Magnitude) :
    ∃ p : PlainNumeral, p.text = trimmedText (.finite negative m) ∧ p.places ≤ 6 ∧
      (∀ k : ℤ, |p.value - (Binary64.finite negative m).value| ≤
        |k / 10 ^ 6 - (Binary64.finite negative m).value|) ∧
      (∀ k : ℤ, |k / 10 ^ 6 - (Binary64.finite negative m).value| =
          |p.value - (Binary64.finite negative m).value| →
        k / 10 ^ 6 = p.value ∨ ∃ j : ℤ, p.value = (2 * j : ℤ) / 10 ^ 6) ∧
      ∀ q : PlainNumeral, q.places ≤ 6 → readFloat? q.text = some (.finite negative m) →
        readFloat? p.text = some (.finite negative m) := by
  obtain ⟨p, htext, hsign, k, hplaces, hround⟩ := Binary64.exists_numeral_trimmedText negative m
  have hone := Binary64.oneUnits_pos
  have hmillion : 0 < 10 ^ (6 : ℕ) := by decide
  have hvalue : p.value = (Binary64.signed negative (roundDiv (m.units * 10 ^ (6 : ℕ)) Binary64.oneUnits
      .toEven) : ℤ) / (10 ^ (6 : ℕ) : ℕ) := by
    rw [PlainNumeral.value_eq hplaces, hsign, hround]
  generalize hs : roundDiv (m.units * 10 ^ (6 : ℕ)) Binary64.oneUnits .toEven = s at *
  have hself : (if negative then -Binary64.signed negative s else Binary64.signed negative s) = s := by
    cases negative <;> simp [Binary64.signed]
  have hpower : ((10 ^ (6 : ℕ) : ℕ) : ℚ) = 10 ^ 6 := by norm_num
  have hscale : (0 : ℚ) < (10 ^ (6 : ℕ) : ℕ) * Binary64.oneUnits :=
    mul_pos (Nat.cast_pos.mpr hmillion) (Nat.cast_pos.mpr hone)
  refine ⟨p, htext, by omega, ?_, ?_, fun q hq hread =>
    Binary64.readFloat?_of_nearest hsign hplaces (hround.trans hs.symm) hq hread⟩
  · intro k
    rw [hvalue, Binary64.value, ← hpower, abs_div_sub_div hmillion hone, abs_div_sub_div hmillion hone,
      div_le_div_iff_of_pos_right hscale, Nat.cast_le, natAbs_sub_signed, natAbs_sub_signed, hself, ← hs]
    exact roundDiv_nearest hone _ .toEven _
  · intro k htie
    rw [hvalue, Binary64.value, ← hpower, abs_div_sub_div hmillion hone, abs_div_sub_div hmillion hone,
      div_left_inj' hscale.ne', Nat.cast_inj, natAbs_sub_signed, natAbs_sub_signed, hself, ← hs] at htie
    rw [hvalue, ← hpower]
    rcases roundDiv_even_of_tie hone htie with hsame | heven
    · left
      rw [hs] at hsame
      have hk : k = Binary64.signed negative s := by
        cases negative <;> simp [Binary64.signed] at hsame ⊢ <;> omega
      rw [hk]
    · right
      rw [hs] at heven
      refine ⟨Binary64.signed negative (s / 2), ?_⟩
      have htwice : Binary64.signed negative s = 2 * Binary64.signed negative (s / 2) := by
        cases negative <;> simp [Binary64.signed] <;> omega
      rw [htwice]

end Number

namespace Upload
open Number (Binary64 PlainNumeral readFloat?)

theorem coerce_of_number {f : Field} (hkind : FieldKind.resolve f = .ok .number) (n : JsonNumber) :
    coerce f (.number n) = .ok (.number (String.ofList n.trimmedText)) := by
  simp [coerce, Json.isNull, hkind, coerceNumber, Except.map, bind, Except.bind]

/-- Under a number field a signed 64-bit integer is stored as the numeral of that integer. A finite
float is stored as a numeral with at most six places: the multiple of a millionth that is nearest to
the float, and of two that are equally near the even one. It is read as the float again whenever any
numeral with at most six places is. -/
theorem coerce_number (f : Field) (hkind : FieldKind.resolve f = .ok .number) :
    (∀ i : ℤ, Number.fitsInt64 i = true → ∃ p : PlainNumeral,
      coerce f (.number (.int i)) = .ok (.number (String.ofList p.text)) ∧
        p.text = Number.intText i ∧ p.value = i) ∧
    ∀ x : Binary64, x.isFinite = true → ∃ p : PlainNumeral,
      coerce f (.number (.float x)) = .ok (.number (String.ofList p.text)) ∧ p.places ≤ 6 ∧
        (∀ k : ℤ, |p.value - x.value| ≤ |k / 10 ^ 6 - x.value|) ∧
        (∀ k : ℤ, |k / 10 ^ 6 - x.value| = |p.value - x.value| →
          k / 10 ^ 6 = p.value ∨ ∃ j : ℤ, p.value = (2 * j : ℤ) / 10 ^ 6) ∧
        ((∃ q : PlainNumeral, q.places ≤ 6 ∧ readFloat? q.text = some x) →
          readFloat? p.text = some x) := by
  constructor
  · intro i hfits
    refine ⟨.ofInt i, ?_, PlainNumeral.text_ofInt i, ?_⟩
    · rw [coerce_of_number hkind, PlainNumeral.text_ofInt, JsonNumber.trimmedText, JsonNumber.int64?,
        if_pos hfits]
    · exact PlainNumeral.value_ofInt i
  · intro x hfinite
    cases x with
    | nan | infinite negative => cases hfinite
    | finite negative m =>
      obtain ⟨p, htext, hplaces, hnearest, htie, hread⟩ := Number.exists_numeral_nearest negative m
      refine ⟨p, ?_, hplaces, hnearest, htie, ?_⟩
      · rw [coerce_of_number hkind, htext]
        rfl
      · rintro ⟨q, hq, hqread⟩
        exact hread q hq hqread

/-- An integer, and a float that two places tell from all others. -/
theorem coerce_number_of_quarter :
    let f : Field := { name := "n", type := "number" }
    let x : Binary64 :=
      .finite false ⟨5629499534213120, 1022, by decide, by decide, by decide⟩
    (∃ p : PlainNumeral, coerce f (.number (.int 42)) = .ok (.number (String.ofList p.text)) ∧
      p.text = Number.intText 42 ∧ p.value = 42) ∧
    ∃ p : PlainNumeral, coerce f (.number (.float x)) = .ok (.number (String.ofList p.text)) ∧
      readFloat? p.text = some x := by
  intro f x
  obtain ⟨hint, hfloat⟩ := coerce_number f (by decide +kernel)
  refine ⟨by exact_mod_cast hint 42 (by decide), ?_⟩
  obtain ⟨p, hcoerce, -, -, -, hread⟩ := hfloat x rfl
  refine ⟨p, hcoerce, hread ⟨⟨false, ['1'], ['2', '5'], by decide, List.all_eq_true.mp rfl,
    List.all_eq_true.mp rfl⟩, by decide, ?_⟩⟩
  decide +kernel

/-- A float that needs a seventh place is stored as the nearest decimal with six, which is another
number. -/
theorem coerce_number_rounds_seventh_place :
    let f : Field := { name := "n", type := "number" }
    let x : Binary64 :=
      .finite false ⟨8895992769862258, 1018, by decide, by decide, by decide⟩
    readFloat? "0.1234567".toList = some x ∧
      coerce f (.number (.float x)) = .ok (.number "0.123457") ∧
      readFloat? "0.123457".toList ≠ some x := by
  intro f x
  have htext : String.ofList (JsonNumber.float x).trimmedText = "0.123457" := by decide +kernel
  refine ⟨by decide +kernel, ?_, by decide +kernel⟩
  rw [coerce_of_number (by decide +kernel), htext]

end Upload

end ItemStore
