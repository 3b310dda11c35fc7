import ItemStore.Proofs.Text.ByteOrder
import ItemStore.Text.Utf8

/-! # Symbols of encoded characters

The encoding of a text is read as its characters. In any bytes those of ASCII are symbols of their
own, and the encoding of a character beyond ASCII has none of them.
-/
namespace ItemStore.Text

/-! ### Bytes of ASCII -/

variable {a : UInt8} {rest : List UInt8}

theorem ascii_iff : a < 0x80 ↔ a.toNat < 0x80 := UInt8.lt_iff_toNat_lt

theorem charAt?_of_ascii (ha : a < 0x80) (rest : List UInt8) :
    charAt? a rest = some (Char.ofNat a.toNat, 0) := if_pos ha

theorem le_of_continuation? {n : Nat} (h : continuation? a = some n) : 0x80 ≤ a := by
  unfold continuation? at h
  split at h
  · next hrange => exact of_decide_eq_true (Bool.and_eq_true_iff.mp hrange).1
  · cases h

/-- The bytes that a character takes after the first one are no characters of their own. -/
theorem le_of_charAt? {c : Char} {more : Nat} (h : charAt? a rest = some (c, more)) :
    ∀ b ∈ rest.take more, 0x80 ≤ b := by
  unfold charAt? at h
  split at h
  · cases h
    simp
  split at h
  · split at h
    · obtain ⟨x, hx, h⟩ := Option.bind_eq_some_iff.mp h
      cases h
      simpa using le_of_continuation? hx
    · cases h
  split at h
  · split at h
    · obtain ⟨x, hx, h⟩ := Option.bind_eq_some_iff.mp h
      obtain ⟨y, hy, h⟩ := Option.bind_eq_some_iff.mp h
      dsimp only at h
      split at h
      · cases h
      · cases h
        simpa using ⟨le_of_continuation? hx, le_of_continuation? hy⟩
    · cases h
  split at h
  · split at h
    · obtain ⟨x, hx, h⟩ := Option.bind_eq_some_iff.mp h
      obtain ⟨y, hy, h⟩ := Option.bind_eq_some_iff.mp h
      obtain ⟨z, hz, h⟩ := Option.bind_eq_some_iff.mp h
      dsimp only at h
      split at h
      · cases h
      · cases h
        simpa using ⟨le_of_continuation? hx, le_of_continuation? hy, le_of_continuation? hz⟩
    · cases h
  · cases h

/-- An ASCII byte is a symbol wherever it stands. -/
theorem mem_symbols_of_ascii {bytes : List UInt8} {b : UInt8} (hmem : b ∈ bytes) (hb : b < 0x80) :
    some (Char.ofNat b.toNat) ∈ symbols bytes := by
  fun_induction symbols bytes with
  | case1 => cases hmem
  | case2 a rest c more hchar ih =>
    rcases List.mem_cons.mp hmem with rfl | hmem
    · rw [charAt?_of_ascii hb] at hchar
      cases hchar
      exact List.mem_cons_self
    · rw [← List.take_append_drop more rest] at hmem
      rcases List.mem_append.mp hmem with htaken | hleft
      · exact absurd hb (UInt8.not_lt.mpr (le_of_charAt? hchar b htaken))
      · exact List.mem_cons_of_mem _ (ih hleft)
  | case3 a rest hchar ih =>
    rcases List.mem_cons.mp hmem with rfl | hmem
    · rw [charAt?_of_ascii hb] at hchar
      cases hchar
    · exact List.mem_cons_of_mem _ (ih hmem)

theorem le_of_mem_encode {c : Char} (hc : 0x80 ≤ c.toNat) :
    ∀ b ∈ String.utf8EncodeChar c, 0x80 ≤ b := by
  have hval : 0x80 ≤ c.val.toNat := hc
  unfold String.utf8EncodeChar
  dsimp only
  split_ifs
  · omega
  all_goals
    simp only [List.forall_mem_cons, List.not_mem_nil, false_implies, implies_true, and_true,
      UInt8.le_iff_toNat_le, UInt8.toNat_ofNat', UInt8.reduceToNat]
    omega

/-! ### Encoded characters -/

theorem between_iff (low high : UInt8) :
    (decide (low ≤ a) && decide (a ≤ high)) = true ↔
      low.toNat ≤ a.toNat ∧ a.toNat ≤ high.toNat := by
  rw [Bool.and_eq_true, decide_eq_true_eq, decide_eq_true_eq, UInt8.le_iff_toNat_le,
    UInt8.le_iff_toNat_le]

theorem leadsTwo_iff :
    (decide (0xC2 ≤ a) && decide (a ≤ 0xDF)) = true ↔ 0xC2 ≤ a.toNat ∧ a.toNat ≤ 0xDF :=
  between_iff 0xC2 0xDF

theorem leadsThree_iff :
    (decide (0xE0 ≤ a) && decide (a ≤ 0xEF)) = true ↔ 0xE0 ≤ a.toNat ∧ a.toNat ≤ 0xEF :=
  between_iff 0xE0 0xEF

theorem leadsFour_iff :
    (decide (0xF0 ≤ a) && decide (a ≤ 0xF4)) = true ↔ 0xF0 ≤ a.toNat ∧ a.toNat ≤ 0xF4 :=
  between_iff 0xF0 0xF4

theorem toNat_ofNat_of_lt {n : Nat} (h : n < 256) : (UInt8.ofNat n).toNat = n :=
  UInt8.toNat_ofNat_of_lt' h

theorem continuation?_encode (n : Nat) :
    continuation? (UInt8.ofNat (n % 64 + 128)) = some (n % 64) := by
  have hbyte : (UInt8.ofNat (n % 64 + 128)).toNat = n % 64 + 128 := toNat_ofNat_of_lt (by omega)
  rw [continuation?, if_pos, hbyte, Nat.add_sub_cancel]
  rw [between_iff, hbyte]
  simp only [UInt8.reduceToNat]
  omega

section Lengths
variable {n : Nat} {b c d : UInt8}

theorem charAt?_two (ha : a.toNat = n / 64 % 32 + 192) (hn : 0x80 ≤ n ∧ n < 0x800)
    (hb : continuation? b = some (n % 64)) :
    charAt? a (b :: rest) = some (Char.ofNat n, 1) := by
  have hjoined : (a.toNat - 0xC0) * 0x40 + n % 64 = n := by omega
  unfold charAt?
  rw [if_neg (mt ascii_iff.mp (by omega)), if_pos (leadsTwo_iff.mpr (by omega))]
  refine Option.bind_eq_some_iff.mpr ⟨_, hb, ?_⟩
  rw [hjoined]

theorem charAt?_three (ha : a.toNat = n / 4096 % 16 + 224) (hn : 0x800 ≤ n ∧ n < 0x10000)
    (hvalid : n < 0xD800 ∨ 0xDFFF < n) (hb : continuation? b = some (n / 64 % 64))
    (hc : continuation? c = some (n % 64)) :
    charAt? a (b :: c :: rest) = some (Char.ofNat n, 2) := by
  have hjoined : (a.toNat - 0xE0) * 0x1000 + n / 64 % 64 * 0x40 + n % 64 = n := by omega
  have hform : ¬ (decide (n < 0x800) || decide (0xD800 ≤ n) && decide (n ≤ 0xDFFF)) = true := by
    simp only [Bool.or_eq_true, Bool.and_eq_true, decide_eq_true_eq]
    omega
  unfold charAt?
  rw [if_neg (mt ascii_iff.mp (by omega)), if_neg (mt leadsTwo_iff.mp (by omega)),
    if_pos (leadsThree_iff.mpr (by omega))]
  refine Option.bind_eq_some_iff.mpr ⟨_, hb, Option.bind_eq_some_iff.mpr ⟨_, hc, ?_⟩⟩
  rw [hjoined]
  exact if_neg hform

theorem charAt?_four (ha : a.toNat = n / 262144 % 8 + 240) (hn : 0x10000 ≤ n ∧ n < 0x110000)
    (hb : continuation? b = some (n / 4096 % 64)) (hc : continuation? c = some (n / 64 % 64))
    (hd : continuation? d = some (n % 64)) :
    charAt? a (b :: c :: d :: rest) = some (Char.ofNat n, 3) := by
  have hjoined : (a.toNat - 0xF0) * 0x40000 + n / 4096 % 64 * 0x1000 + n / 64 % 64 * 0x40 + n % 64 =
      n := by
    omega
  have hform : ¬ (decide (n < 0x10000) || decide (0x10FFFF < n)) = true := by
    simp only [Bool.or_eq_true, decide_eq_true_eq]
    omega
  unfold charAt?
  rw [if_neg (mt ascii_iff.mp (by omega)), if_neg (mt leadsTwo_iff.mp (by omega)),
    if_neg (mt leadsThree_iff.mp (by omega)), if_pos (leadsFour_iff.mpr (by omega))]
  refine Option.bind_eq_some_iff.mpr ⟨_, hb, Option.bind_eq_some_iff.mpr ⟨_, hc,
    Option.bind_eq_some_iff.mpr ⟨_, hd, ?_⟩⟩⟩
  rw [hjoined]
  exact if_neg hform

end Lengths

/-- The encoding of a character is read as that character, whatever follows: the range of the
leading byte tells how many bytes there are. -/
theorem charAt?_encode (c : Char) (rest : List UInt8) :
    ∃ a more, String.utf8EncodeChar c = a :: more ∧
      charAt? a (more ++ rest) = some (c, more.length) := by
  have hchar : Char.ofNat c.val.toNat = c := Char.ofNat_toNat c
  have hvalid : c.val.toNat < 0xD800 ∨ 0xDFFF < c.val.toNat ∧ c.val.toNat < 0x110000 := c.valid
  unfold String.utf8EncodeChar
  dsimp only
  generalize c.val.toNat = n at hchar hvalid
  subst hchar
  split_ifs with hone htwo hthree
  · have hlead : (UInt8.ofNat n).toNat = n := toNat_ofNat_of_lt (by omega)
    refine ⟨_, [], rfl, ?_⟩
    rw [charAt?_of_ascii (ascii_iff.mpr (by omega)), hlead]
    rfl
  · refine ⟨_, _, rfl, ?_⟩
    exact charAt?_two (toNat_ofNat_of_lt (by omega)) (by omega) (continuation?_encode n)
  · refine ⟨_, _, rfl, ?_⟩
    exact charAt?_three (toNat_ofNat_of_lt (by omega)) (by omega) (by omega)
      (continuation?_encode (n / 64)) (continuation?_encode n)
  · refine ⟨_, _, rfl, ?_⟩
    exact charAt?_four (toNat_ofNat_of_lt (by omega)) (by omega) (continuation?_encode (n / 4096))
      (continuation?_encode (n / 64)) (continuation?_encode n)

theorem symbols_encode (c : Char) (rest : List UInt8) :
    symbols (String.utf8EncodeChar c ++ rest) = some c :: symbols rest := by
  obtain ⟨a, more, hencode, hchar⟩ := charAt?_encode c rest
  rw [hencode, List.cons_append, symbols, hchar]
  simp

theorem symbols_bytes (text : String) : symbols (bytes text) = symbolsOf text := by
  rw [bytes_eq_flatMap, symbolsOf]
  induction text.toList with
  | nil => exact symbols_nil
  | cons c cs ih => rw [List.flatMap_cons, symbols_encode, ih, List.map_cons]

end ItemStore.Text
