import ItemStore.Number.Notation
import ItemStore.Number.Numeral
import ItemStore.Proofs.Number.DecimalValue
import ItemStore.Text.Blank

/-! # Numerals

A numeral without an exponent is a sign, digits, and perhaps a point with digits after it. Reading
it gives the value nearest to the number that it denotes, whatever its length.
-/
namespace ItemStore.Number

attribute [local instance (2000)] instPowNat

section Digits
variable {n k : Nat} {c : Char} {digits : List Char}

theorem natOfDigits_eq_ofDigitChars (digits : List Char) :
    natOfDigits digits = Nat.ofDigitChars 10 digits 0 := by
  simp only [natOfDigits, Nat.ofDigitChars, digitValue, Nat.mul_comm]

theorem natOfDigits_append (front back : List Char) :
    natOfDigits (front ++ back) = natOfDigits front * 10 ^ back.length + natOfDigits back := by
  simp only [natOfDigits_eq_ofDigitChars, Nat.ofDigitChars_append]
  rw [Nat.ofDigitChars_eq_ofDigitChars_zero, Nat.mul_comm]

@[simp] theorem natOfDigits_zeros (k : Nat) : natOfDigits (zeros k) = 0 := by
  rw [natOfDigits_eq_ofDigitChars, zeros, Nat.ofDigitChars_replicate_zero, Nat.mul_zero]

@[simp] theorem natOfDigits_natText (n : Nat) : natOfDigits (natText n) = n := by
  rw [natOfDigits_eq_ofDigitChars, natText, Nat.ofDigitChars_ten_toDigits]

theorem natText_ne_nil (n : Nat) : natText n ≠ [] := Nat.toDigits_ne_nil

theorem isDigit_of_mem_natText (h : c ∈ natText n) : isDigit c = true :=
  Nat.isDigit_of_mem_toDigits (by decide) (by decide) h

theorem isDigit_of_mem_zeros (h : c ∈ zeros k) : isDigit c = true := by
  rw [List.eq_of_mem_replicate h]
  rfl

/-- A power of ten is written by as many zeros behind the digits. -/
theorem natText_mul_pow (hn : 0 < n) (k : Nat) : natText (n * 10 ^ k) = natText n ++ zeros k := by
  induction k with
  | zero => simp [zeros]
  | succ k ih =>
    have hpos : 0 < n * 10 ^ k := Nat.mul_pos hn (Nat.pow_pos (by decide))
    have hshift : n * 10 ^ (k + 1) = 10 * (n * 10 ^ k) + 0 := by
      rw [Nat.pow_succ]
      grind
    calc natText (n * 10 ^ (k + 1)) = natText (n * 10 ^ k) ++ natText 0 := by
          rw [hshift, natText, natText, natText,
            Nat.toDigits_append_toDigits (by decide) hpos (by decide)]
      _ = natText n ++ (zeros k ++ ['0']) := by
          rw [ih, List.append_assoc]
          rfl
      _ = natText n ++ zeros (k + 1) := by rw [zeros, zeros, List.replicate_succ']

theorem readNat?_eq_some_iff :
    readNat? digits = some n ↔
      digits ≠ [] ∧ (∀ c ∈ digits, isDigit c = true) ∧ natOfDigits digits = n := by
  simp [readNat?, and_assoc]

theorem readNat?_natText (n : Nat) : readNat? (natText n) = some n :=
  readNat?_eq_some_iff.mpr
    ⟨natText_ne_nil n, fun _ h => isDigit_of_mem_natText h, natOfDigits_natText n⟩

theorem not_isBlank_of_isDigit (h : isDigit c = true) : Text.isBlank c = false := by
  simp only [isDigit, Bool.and_eq_true, decide_eq_true_eq, Char.le_def, UInt32.le_iff_toNat_le] at h
  have hlow : 48 ≤ c.toNat := h.1
  have hhigh : c.toNat ≤ 57 := h.2
  simp only [Text.isBlank, Bool.or_eq_false_iff, Bool.and_eq_false_iff, decide_eq_false_iff_not,
    beq_eq_false_iff_ne]
  omega

/-- Digits end where something else begins. -/
theorem span_digits (rest : List Char) (hdigits : ∀ c ∈ digits, isDigit c = true)
    (hrest : ∀ c ∈ rest.head?, isDigit c = false) :
    (digits ++ rest).takeWhile isDigit = digits ∧ (digits ++ rest).dropWhile isDigit = rest := by
  rw [List.takeWhile_append_of_pos hdigits, List.dropWhile_append_of_pos hdigits]
  cases rest with
  | nil => simp
  | cons c rest => simp [hrest c rfl]

end Digits

structure PlainNumeral where
  negative : Bool
  /-- The digits before the point. -/
  whole : List Char
  /-- The digits after the point; there is no point if there are none. -/
  fraction : List Char
  whole_ne_nil : whole ≠ []
  isDigit_whole : ∀ c ∈ whole, isDigit c = true
  isDigit_fraction : ∀ c ∈ fraction, isDigit c = true

namespace PlainNumeral
variable (p : PlainNumeral)

def body : List Char := p.whole ++ (if p.fraction = [] then [] else '.' :: p.fraction)

def text : List Char := Binary64.signText p.negative ++ p.body

def coefficient : Nat := natOfDigits (p.whole ++ p.fraction)

def places : Nat := p.fraction.length

theorem exists_body_eq_cons : ∃ c rest, p.body = c :: rest ∧ isDigit c = true := by
  obtain ⟨c, rest, hwhole⟩ := List.exists_cons_of_ne_nil p.whole_ne_nil
  refine ⟨c, rest ++ (if p.fraction = [] then [] else '.' :: p.fraction), ?_, ?_⟩
  · rw [body, hwhole, List.cons_append]
  · exact p.isDigit_whole c (by simp [hwhole])

theorem takeSign_append (tail : List Char) :
    takeSign (p.text ++ tail) = (p.negative, p.body ++ tail) := by
  rw [text, List.append_assoc]
  cases p.negative with
  | true => rfl
  | false =>
    obtain ⟨c, rest, hbody, hdigit⟩ := p.exists_body_eq_cons
    rw [hbody]
    unfold takeSign
    split
    · next h =>
      cases h
      cases hdigit
    · next h =>
      cases h
      cases hdigit
    · rfl

theorem takeSign_text : takeSign p.text = (p.negative, p.body) := by
  simpa using p.takeSign_append []

/-- What stands behind the digits is read as the exponent. -/
theorem readUnsigned?_append {tail : List Char}
    (htail : ∀ c ∈ tail.head?, isDigit c = false ∧ c ≠ '.') :
    readUnsigned? p.negative (p.body ++ tail) =
      (readExponent? tail).map fun e => .ofDecimal p.negative p.coefficient (e - p.places) := by
  have hend : ∀ c ∈ tail.head?, isDigit c = false := fun c hc => (htail c hc).1
  by_cases hfraction : p.fraction = []
  · obtain ⟨htake, hdrop⟩ := span_digits tail p.isDigit_whole hend
    have hbody : p.body = p.whole := by rw [body, if_pos hfraction, List.append_nil]
    simp only [readUnsigned?, hbody, htake, hdrop, coefficient, places, hfraction]
    split
    · exact absurd rfl (htail '.' rfl).2
    · cases readExponent? tail <;> simp [p.whole_ne_nil]
  · obtain ⟨htake, hdrop⟩ :=
      span_digits ('.' :: (p.fraction ++ tail)) p.isDigit_whole (by simp [isDigit])
    obtain ⟨htake', hdrop'⟩ := span_digits tail p.isDigit_fraction hend
    have hbody : p.body = p.whole ++ '.' :: p.fraction := by rw [body, if_neg hfraction]
    simp only [readUnsigned?, hbody, List.append_assoc, List.cons_append, htake, hdrop, htake',
      hdrop', coefficient, places]
    cases readExponent? tail <;> simp [p.whole_ne_nil]

theorem trim_text : Text.trim p.text = p.text := by
  apply Text.trim_of_not_isBlank
  intro c hc
  simp only [text, body, Binary64.signText, List.mem_append] at hc
  rcases hc with hsign | hwhole | hfraction
  · split at hsign
    · rw [List.mem_singleton.mp hsign]
      rfl
    · cases hsign
  · exact not_isBlank_of_isDigit (p.isDigit_whole c hwhole)
  · split at hfraction
    · cases hfraction
    · rcases List.mem_cons.mp hfraction with rfl | hfraction
      · rfl
      · exact not_isBlank_of_isDigit (p.isDigit_fraction c hfraction)

/-- No word begins with a digit. -/
theorem word_ne_of_isDigit (tail : List Char) (word : String)
    (hword : word.toList.head?.any isDigit = false) :
    String.ofList ((p.body ++ tail).map Char.toLower) ≠ word := by
  rintro rfl
  obtain ⟨c, rest, hbody, hdigit⟩ := p.exists_body_eq_cons
  have hlower : c.toLower = c := by
    simp only [isDigit, Bool.and_eq_true, decide_eq_true_eq, Char.le_def] at hdigit
    unfold Char.toLower
    apply dif_neg
    intro h
    have := UInt32.le_trans h.1 hdigit.2
    exact absurd this (by decide)
  simp [hbody, hlower, hdigit] at hword

theorem readFloat?_append {tail : List Char}
    (htail : ∀ c ∈ tail.head?, isDigit c = false ∧ c ≠ '.') :
    readFloat? (p.text ++ tail) =
      (readExponent? tail).map fun e => .ofDecimal p.negative p.coefficient (e - p.places) := by
  have hinf := p.word_ne_of_isDigit tail "inf" rfl
  have hinfinity := p.word_ne_of_isDigit tail "infinity" rfl
  have hnan := p.word_ne_of_isDigit tail "nan" rfl
  simp only [readFloat?, takeSign_append, p.readUnsigned?_append htail, beq_eq_false_iff_ne.mpr hinf,
    beq_eq_false_iff_ne.mpr hinfinity, beq_eq_false_iff_ne.mpr hnan, Bool.or_self,
    Bool.false_eq_true, if_false]

theorem readFloat?_text :
    readFloat? p.text =
      some (Binary64.ofRatio p.negative (p.coefficient * Binary64.oneUnits) (10 ^ p.places)) := by
  have hpower : (0 - (p.places : Int)).toNat = 0 := by omega
  have hplaces : (-(0 - (p.places : Int))).toNat = p.places := by omega
  have hnothing : ∀ c ∈ ([] : List Char).head?, isDigit c = false ∧ c ≠ '.' := by simp
  have hread := p.readFloat?_append hnothing
  rw [List.append_nil, readExponent?, Option.map_some] at hread
  rw [hread, Binary64.ofDecimal_eq_ofRatio, hpower, hplaces, Nat.pow_zero, Nat.mul_one]

section OfDigits
variable {negative : Bool} {digits : List Char} {places : Nat}

/-- Digits with a point before the last ones of them. -/
def ofDigits (negative : Bool) (digits : List Char) (places : Nat)
    (hdigits : ∀ c ∈ digits, isDigit c = true) (hplaces : places < digits.length) : PlainNumeral where
  negative := negative
  whole := digits.take (digits.length - places)
  fraction := digits.drop (digits.length - places)
  whole_ne_nil := by
    rw [ne_eq, List.take_eq_nil_iff]
    rintro (hshort | rfl)
    · omega
    · cases hplaces
  isDigit_whole c hc := hdigits c (List.mem_of_mem_take hc)
  isDigit_fraction c hc := hdigits c (List.mem_of_mem_drop hc)

variable (hdigits : ∀ c ∈ digits, isDigit c = true) (hplaces : places < digits.length)

theorem coefficient_ofDigits :
    (ofDigits negative digits places hdigits hplaces).coefficient = natOfDigits digits := by
  rw [coefficient, ofDigits, List.take_append_drop]

theorem places_ofDigits : (ofDigits negative digits places hdigits hplaces).places = places := by
  simp only [PlainNumeral.places, ofDigits, List.length_drop]
  omega

theorem text_ofDigits :
    (ofDigits negative digits places hdigits hplaces).text =
      Binary64.signText negative ++ digits.take (digits.length - places) ++
        (if places = 0 then [] else '.' :: digits.drop (digits.length - places)) := by
  have hfraction : digits.drop (digits.length - places) = [] ↔ places = 0 := by
    rw [List.drop_eq_nil_iff]
    omega
  simp only [text, body, ofDigits, hfraction, List.append_assoc]

end OfDigits

/-- A number of units of the last decimal place, with zeros before it where the point needs them. -/
def ofScaled (negative : Bool) (scaled places : Nat) : PlainNumeral :=
  .ofDigits negative (zeros (places + 1 - (natText scaled).length) ++ natText scaled) places
    (by
      intro c hc
      rcases List.mem_append.mp hc with hc | hc
      · exact isDigit_of_mem_zeros hc
      · exact isDigit_of_mem_natText hc)
    (by
      rw [List.length_append, zeros, List.length_replicate]
      omega)

@[simp] theorem coefficient_ofScaled (negative : Bool) (scaled places : Nat) :
    (ofScaled negative scaled places).coefficient = scaled := by
  rw [ofScaled, coefficient_ofDigits, natOfDigits_append, natOfDigits_zeros, Nat.zero_mul, Nat.zero_add,
    natOfDigits_natText]

@[simp] theorem places_ofScaled (negative : Bool) (scaled places : Nat) :
    (ofScaled negative scaled places).places = places := places_ofDigits _ _

end PlainNumeral

/-! ### Integers -/

def integer? : List Char → Option Int
  | '-' :: digits => (readNat? digits).map fun n => Binary64.signed true n
  | digits => (readNat? digits).map fun n => Binary64.signed false n

section Integers
variable {text : List Char} {i : Int}

theorem exists_numeral_of_integer? (h : integer? text = some i) :
    ∃ p : PlainNumeral, p.text = text ∧ p.places = 0 ∧
      Binary64.signed p.negative p.coefficient = i := by
  have hdigits {digits : List Char} (negative : Bool)
      (hread : (readNat? digits).map (fun n => Binary64.signed negative n) = some i) :
      ∃ p : PlainNumeral, p.text = Binary64.signText negative ++ digits ∧ p.places = 0 ∧
        Binary64.signed p.negative p.coefficient = i := by
    obtain ⟨n, hn, rfl⟩ := Option.map_eq_some_iff.mp hread
    obtain ⟨hne, hall, rfl⟩ := readNat?_eq_some_iff.mp hn
    refine ⟨⟨negative, digits, [], hne, hall, by simp⟩, ?_, rfl, ?_⟩
    · simp [PlainNumeral.text, PlainNumeral.body]
    · simp [PlainNumeral.coefficient]
  unfold integer? at h
  split at h
  · exact hdigits true h
  · exact hdigits false h

/-- An integer numeral is read as a value at the place of the rounded integer. Only the sign of a
zero may differ. -/
theorem exists_readFloat?_of_integer? (h : integer? text = some i) :
    ∃ x, readFloat? text = some x ∧ x.isNaN = false ∧ x.position = (Binary64.ofInt i).position := by
  obtain ⟨p, rfl, hplaces, rfl⟩ := exists_numeral_of_integer? h
  have hone : 0 < 10 ^ p.places := Nat.pow_pos (by decide)
  refine ⟨_, p.readFloat?_text, Binary64.isNaN_ofRatio hone _ _, ?_⟩
  rw [hplaces, Nat.pow_zero, Binary64.ofInt_eq, Binary64.natAbs_signed]
  by_cases hzero : p.coefficient = 0
  · rw [hzero, Nat.zero_mul, Binary64.ofRatio_of_underflow Nat.one_pos _ (Nat.zero_le _),
      Binary64.ofRatio_of_underflow Nat.one_pos _ (Nat.zero_le _)]
    cases p.negative <;> rfl
  · have hsign : decide (Binary64.signed p.negative p.coefficient < 0) = p.negative := by
      simp only [Binary64.signed_neg_iff hzero, Bool.decide_eq_true]
    rw [hsign]

def PlainNumeral.ofInt (i : Int) : PlainNumeral :=
  ⟨i < 0, natText i.natAbs, [], natText_ne_nil _, fun _ h => isDigit_of_mem_natText h, by simp⟩

@[simp] theorem PlainNumeral.text_ofInt (i : Int) : (PlainNumeral.ofInt i).text = intText i := by
  by_cases h : i < 0 <;>
    simp [PlainNumeral.text, PlainNumeral.body, PlainNumeral.ofInt, intText, Binary64.signText, h]

theorem readFloat?_intText (i : Int) : readFloat? (intText i) = some (Binary64.ofInt i) := by
  have hread := (PlainNumeral.ofInt i).readFloat?_text
  rw [PlainNumeral.text_ofInt] at hread
  rw [hread, Binary64.ofInt_eq]
  simp [PlainNumeral.ofInt, PlainNumeral.coefficient, PlainNumeral.places]

theorem readInt64?_intText (i : Int) :
    readInt64? (intText i) = if fitsInt64 i then some i else none := by
  have hsign := (PlainNumeral.ofInt i).takeSign_text
  rw [PlainNumeral.text_ofInt] at hsign
  have hbody : (PlainNumeral.ofInt i).body = natText i.natAbs := by
    simp [PlainNumeral.ofInt, PlainNumeral.body]
  have hvalue : (if (PlainNumeral.ofInt i).negative then -(i.natAbs : Int) else i.natAbs) = i :=
    Binary64.signed_natAbs i
  simp only [readInt64?, hsign, hbody, readNat?_natText, hvalue]

end Integers

end ItemStore.Number
