import ItemStore.Proofs.Number.ShortestText

/-! # Numerals with an exponent

In a document a number may have an exponent behind its digits. The text of a finite value is such a
numeral, never the numeral of an integer, and it is read as that value again.
-/
namespace ItemStore.Number

attribute [local instance (2000)] instPowNat

theorem natText_of_le {n : Nat} (h : 10 ≤ n) : ∃ c, natText n = natText (n / 10) ++ [c] :=
  ⟨_, Nat.toDigits_of_base_le (by decide) h⟩

/-- Only zero is written with a zero at the front. -/
theorem head?_natText_append_ne {n : Nat} (h : n ≠ 0) (tail : List Char) :
    (natText n ++ tail).head? ≠ some '0' := by
  induction n using Nat.strongRecOn generalizing tail with
  | ind n ih =>
    by_cases hsmall : n < 10
    · have hdigits : ∀ k < 10, k ≠ 0 → ∃ c, natText k = [c] ∧ c ≠ '0' := by
        intro k hk hne
        exact ⟨Nat.digitChar k, Nat.toDigits_of_lt_base hk, by revert k; decide⟩
      obtain ⟨c, hc, hne⟩ := hdigits n hsmall h
      simpa [hc] using hne
    · obtain ⟨c, hc⟩ := natText_of_le (Nat.not_lt.mp hsmall)
      rw [hc, List.append_assoc]
      exact ih (n / 10) (by omega) (by omega) _

/-- Digits without a zero at the front that could be left out. -/
def Proper (digits : List Char) : Prop := digits.length ≤ 1 ∨ digits.head? ≠ some '0'

theorem proper_natText (n : Nat) : Proper (natText n) := by
  by_cases h : n = 0
  · subst h
    exact .inl (by decide)
  · exact .inr (by simpa using head?_natText_append_ne h [])

theorem proper_natText_take (n : Nat) {k : Nat} (hk : 0 < k) : Proper ((natText n).take k) := by
  rcases proper_natText n with h | h
  · exact .inl (Nat.le_trans (List.length_take_le' _ _) h)
  · right
    rwa [List.head?_take, if_neg (Nat.ne_of_gt hk)]

/-- The text of an exponent, which has a sign in any case. -/
def exponentText : Option Int → List Char
  | none => []
  | some power => 'e' :: (if power < 0 then '-' else '+') :: natText power.natAbs

theorem exponentText_some (power : Int) : exponentText (some power) =
    'e' :: (if power < 0 then '-' else '+') :: natText power.natAbs := rfl

structure ExponentNumeral extends PlainNumeral where
  exponent : Option Int

namespace ExponentNumeral

def fullText (p : ExponentNumeral) : List Char := p.text ++ exponentText p.exponent

def decimal (p : ExponentNumeral) : Decimal := ⟨p.coefficient, p.exponent.getD 0 - p.places⟩

def value (p : ExponentNumeral) : Binary64 :=
  .ofDecimal p.negative p.decimal.coefficient p.decimal.exponent

/-- The numeral has a point or an exponent, so it is not the one of an integer. -/
def IsFloat (p : ExponentNumeral) : Prop := p.fraction ≠ [] ∨ p.exponent ≠ none

theorem head?_exponentText (exponent : Option Int) :
    ∀ c ∈ (exponentText exponent).head?, isDigit c = false ∧ c ≠ '.' := by
  cases exponent with
  | none => simp [exponentText]
  | some power =>
    intro c hc
    obtain rfl : c = 'e' := by simpa [exponentText, eq_comm] using hc
    decide

theorem readExponent?_exponentText (exponent : Option Int) :
    readExponent? (exponentText exponent) = some (exponent.getD 0) := by
  cases exponent with
  | none => rfl
  | some power =>
    rw [exponentText_some]
    by_cases hsign : power < 0
    · have hpower : -(power.natAbs : Int) = power := by omega
      generalize power.natAbs = n at *
      simp [readExponent?, takeSign, hsign, readNat?_natText, hpower]
    · have hpower : (power.natAbs : Int) = power := by omega
      generalize power.natAbs = n at *
      simp [readExponent?, takeSign, hsign, readNat?_natText, hpower]

theorem readFloat?_fullText (p : ExponentNumeral) : readFloat? p.fullText = some p.value := by
  rw [fullText, p.readFloat?_append (head?_exponentText p.exponent), readExponent?_exponentText,
    Option.map_some]
  rfl

/-- A numeral with a point or an exponent is no integer. -/
theorem readInt64?_fullText {p : ExponentNumeral} (h : p.IsFloat) : readInt64? p.fullText = none := by
  have hmark : ∃ c ∈ p.body ++ exponentText p.exponent, isDigit c = false := by
    rcases h with h | h
    · exact ⟨'.', by simp [PlainNumeral.body, h], rfl⟩
    · obtain ⟨power, hpower⟩ := Option.ne_none_iff_exists'.mp h
      exact ⟨'e', by simp [hpower, exponentText], rfl⟩
  obtain ⟨c, hc, hdigit⟩ := hmark
  have hnat : readNat? (p.body ++ exponentText p.exponent) = none := by
    refine Option.eq_none_iff_forall_ne_some.mpr fun n hn => ?_
    have hall := (readNat?_eq_some_iff.mp hn).2.1 c hc
    rw [hdigit] at hall
    cases hall
  simp only [readInt64?, fullText, p.takeSign_append, hnat]

end ExponentNumeral

namespace Decimal
variable {m : Magnitude}

theorem identifies_shift_pow (c k : Nat) (e : Int) :
    Identifies ⟨c * 10 ^ k, e⟩ m ↔ Identifies ⟨c, e + k⟩ m := by
  induction k generalizing e with
  | zero => simp
  | succ k ih =>
    have hexponent : e + (k + 1 : Nat) = e + 1 + k := by omega
    rw [Nat.pow_succ, ← Nat.mul_assoc, ← identifies_shift, ih, hexponent]

theorem exists_scientific (d : Decimal) (negative : Bool) :
    ∃ p : ExponentNumeral, p.fullText = Binary64.signText negative ++ d.scientificText ∧
      p.negative = negative ∧ p.IsFloat ∧ Proper p.whole ∧ p.decimal = d := by
  have hdigits : natText d.coefficient ≠ [] := natText_ne_nil _
  have hlength : 0 < (natText d.coefficient).length := List.length_pos_iff.mpr hdigits
  refine ⟨⟨⟨negative, (natText d.coefficient).take 1, (natText d.coefficient).drop 1, ?_, ?_, ?_⟩,
    some d.leadingPower⟩, ?_, rfl, .inr (Option.some_ne_none _),
    proper_natText_take _ Nat.one_pos, ?_⟩
  · simp [List.take_eq_nil_iff, hdigits]
  · exact fun c hc => isDigit_of_mem_natText (List.mem_of_mem_take hc)
  · exact fun c hc => isDigit_of_mem_natText (List.mem_of_mem_drop hc)
  · simp only [ExponentNumeral.fullText, PlainNumeral.text, PlainNumeral.body, scientificText,
      exponentText, List.isEmpty_iff, List.append_assoc]
  · have hcoefficient : natOfDigits ((natText d.coefficient).take 1 ++ (natText d.coefficient).drop 1) =
        d.coefficient := by
      rw [List.take_append_drop, natOfDigits_natText]
    have hexponent : d.leadingPower - ((natText d.coefficient).length - 1 : Nat) = d.exponent := by
      unfold leadingPower
      omega
    simp only [ExponentNumeral.decimal, PlainNumeral.coefficient, PlainNumeral.places,
      Option.getD_some, List.length_drop, hcoefficient, hexponent]

theorem exists_positional_of_neg {d : Decimal} (h : ¬ 0 ≤ d.exponent) (negative : Bool) :
    ∃ p : ExponentNumeral, p.fullText = Binary64.signText negative ++ d.positionalText true ∧
      p.negative = negative ∧ p.IsFloat ∧ Proper p.whole ∧ p.decimal = d := by
  have hplaces : 0 < (-d.exponent).toNat := by omega
  have hkeep : d.positionalText true = d.positionalText false := by
    simp only [positionalText, if_neg h]
  have hzeros (k : Nat) : (zeros k).length = k := List.length_replicate
  refine ⟨⟨.ofScaled negative d.coefficient (-d.exponent).toNat, none⟩, ?_, rfl, .inl ?_, ?_, ?_⟩
  · rw [hkeep, ← text_ofScaled_of_neg h, ExponentNumeral.fullText, exponentText, List.append_nil]
  · intro hnone
    have hlength := PlainNumeral.places_ofScaled negative d.coefficient (-d.exponent).toNat
    rw [PlainNumeral.places, hnone] at hlength
    rw [← hlength] at hplaces
    cases hplaces
  · simp only [PlainNumeral.ofScaled, PlainNumeral.ofDigits]
    by_cases hinside : (-d.exponent).toNat < (natText d.coefficient).length
    · have hnone : (-d.exponent).toNat + 1 - (natText d.coefficient).length = 0 := by omega
      rw [hnone, zeros, List.replicate_zero, List.nil_append]
      exact proper_natText_take _ (by omega)
    · refine .inl (Nat.le_trans (List.length_take_le _ _) ?_)
      rw [List.length_append, hzeros]
      omega
  · have hexponent : (0 : Int) - (-d.exponent).toNat = d.exponent := by omega
    simp only [ExponentNumeral.decimal, PlainNumeral.coefficient_ofScaled, PlainNumeral.places_ofScaled,
      Option.getD_none, hexponent]

theorem exists_positional_of_nonneg {d : Decimal} (h : 0 ≤ d.exponent)
    (hzero : d.coefficient = 0 → d.exponent = 0) (negative : Bool) :
    ∃ p : ExponentNumeral, p.fullText = Binary64.signText negative ++ d.positionalText true ∧
      p.negative = negative ∧ p.IsFloat ∧ Proper p.whole ∧
      ∀ m, d.Identifies m → p.decimal.Identifies m := by
  have hdigits : natText d.coefficient ≠ [] := natText_ne_nil _
  refine ⟨⟨⟨negative, natText d.coefficient ++ zeros d.exponent.toNat, ['0'], ?_, ?_, by simp [isDigit]⟩,
    none⟩, ?_, rfl, .inl (List.cons_ne_nil _ _), ?_, ?_⟩
  · simp [hdigits]
  · intro c hc
    rcases List.mem_append.mp hc with hc | hc
    · exact isDigit_of_mem_natText hc
    · exact isDigit_of_mem_zeros hc
  · simp [ExponentNumeral.fullText, PlainNumeral.text, PlainNumeral.body, positionalText,
      exponentText, h]
  · by_cases hcoefficient : d.coefficient = 0
    · rw [hzero hcoefficient]
      simpa [zeros] using proper_natText d.coefficient
    · exact .inr (head?_natText_append_ne hcoefficient _)
  · intro m hm
    have hlength : (zeros d.exponent.toNat).length = d.exponent.toNat := List.length_replicate
    have hlast : natOfDigits ['0'] = 0 := rfl
    have hcoefficient :
        natOfDigits (natText d.coefficient ++ zeros d.exponent.toNat ++ ['0']) =
          d.coefficient * 10 ^ (d.exponent.toNat + 1) := by
      rw [natOfDigits_append, natOfDigits_append, natOfDigits_natText, natOfDigits_zeros, hlength,
        hlast, Nat.pow_succ, ← Nat.mul_assoc]
      rfl
    have hexponent : (0 : Int) - (1 : Nat) + (d.exponent.toNat + 1 : Nat) = d.exponent := by omega
    have hdecimal :
        Identifies ⟨d.coefficient * 10 ^ (d.exponent.toNat + 1), (0 : Int) - (1 : Nat)⟩ m := by
      rw [identifies_shift_pow, hexponent]
      exact hm
    rw [← hcoefficient] at hdecimal
    exact hdecimal

/-- The text of a decimal in a document is a numeral of a float with the same number. -/
theorem exists_document {d : Decimal} (hzero : d.coefficient = 0 → d.exponent = 0) (negative : Bool) :
    ∃ p : ExponentNumeral, p.fullText = Binary64.signText negative ++ d.text .document ∧
      p.negative = negative ∧ p.IsFloat ∧ Proper p.whole ∧
      ∀ m, d.Identifies m → p.decimal.Identifies m := by
  rw [Decimal.text, Style.document]
  dsimp only
  split
  · by_cases hexponent : 0 ≤ d.exponent
    · exact exists_positional_of_nonneg hexponent hzero negative
    · obtain ⟨p, htext, hnegative, hfloat, hproper, hdecimal⟩ :=
        exists_positional_of_neg hexponent negative
      exact ⟨p, htext, hnegative, hfloat, hproper, fun m hm => hdecimal ▸ hm⟩
  · obtain ⟨p, htext, hnegative, hfloat, hproper, hdecimal⟩ := d.exists_scientific negative
    exact ⟨p, htext, hnegative, hfloat, hproper, fun m hm => hdecimal ▸ hm⟩

end Decimal

namespace Binary64

theorem exists_numeral_of_isFinite {x : Binary64} (h : x.isFinite = true) :
    ∃ p : ExponentNumeral, p.fullText = x.text .document ∧ p.IsFloat ∧ Proper p.whole ∧ p.value = x := by
  cases x with
  | nan | infinite negative => cases h
  | finite negative m =>
    have hvalue {d : Decimal} (hd : d.Identifies m) (hzero : d.coefficient = 0 → d.exponent = 0) :
        ∃ p : ExponentNumeral, p.fullText = signText negative ++ d.text .document ∧ p.IsFloat ∧
          Proper p.whole ∧ p.value = .finite negative m := by
      obtain ⟨p, htext, hnegative, hfloat, hproper, hidentifies⟩ :=
        Decimal.exists_document hzero negative
      exact ⟨p, htext, hfloat, hproper, hnegative ▸ hidentifies m hd p.negative⟩
    rw [text]
    split
    · next hzero =>
      rw [Magnitude.eq_zero_of_isZero hzero] at hvalue ⊢
      exact hvalue (fun _ => rfl) fun _ => rfl
    · next hnonzero =>
      have hidentifies := m.identifies_shortest Style.document.tie
      refine hvalue hidentifies fun hcoefficient => ?_
      -- A decimal without digits would be rounded to zero.
      have hnone := hidentifies false
      rw [hcoefficient, ofDecimal, if_pos rfl] at hnone
      cases hnone
      exact absurd rfl hnonzero

theorem read_document {x : Binary64} (h : x.isFinite = true) :
    readInt64? (x.text .document) = none ∧ readFloat? (x.text .document) = some x := by
  obtain ⟨p, htext, hfloat, -, hvalue⟩ := exists_numeral_of_isFinite h
  rw [← htext, ExponentNumeral.readInt64?_fullText hfloat, p.readFloat?_fullText, hvalue]
  exact ⟨rfl, rfl⟩

end Binary64

end ItemStore.Number
