import ItemStore.Base64
import Mathlib.Tactic.SplitIfs

/-! # The text of a byte sequence

Bytes and base64 texts determine each other: what is written is read back, and no text is read but
the one that is written for its bytes. The padding is no letter, so the last group of four
characters shows how many bytes it stands for. What is written is the canonical text: its letters
have the bits of the bytes in their order, and all further bits are zero.
-/
namespace ItemStore.Base64

theorem letter_ne_pad {n : Nat} (h : n < 64) : letter n ≠ '=' := by
  revert n
  decide

theorem toNat_le_of_le {c d : Char} (h : c ≤ d) : c.toNat ≤ d.toNat := h

/-- A character that has a value is the letter of that value. -/
theorem letter_of_letterValue? {c : Char} {n : Nat} (h : letterValue? c = some n) :
    n < 64 ∧ letter n = c := by
  have hupper : 'A'.toNat = 65 ∧ 'Z'.toNat = 90 := by decide
  have hlower : 'a'.toNat = 97 ∧ 'z'.toNat = 122 := by decide
  have hdigit : '0'.toNat = 48 ∧ '9'.toNat = 57 := by decide
  unfold letterValue? at h
  simp only [Bool.and_eq_true, decide_eq_true_eq] at h
  split_ifs at h with hA ha h0 hplus hslash
  · cases h
    have hlow := toNat_le_of_le hA.1
    have hhigh := toNat_le_of_le hA.2
    have hback : 'A'.toNat + (c.toNat - 'A'.toNat) = c.toNat := by omega
    refine ⟨by omega, ?_⟩
    rw [letter, if_pos (by omega), hback, Char.ofNat_toNat]
  · cases h
    have hlow := toNat_le_of_le ha.1
    have hhigh := toNat_le_of_le ha.2
    have hback : 'a'.toNat + (c.toNat - 'a'.toNat + 26 - 26) = c.toNat := by omega
    refine ⟨by omega, ?_⟩
    rw [letter, if_neg (by omega), if_pos (by omega), hback, Char.ofNat_toNat]
  · cases h
    have hlow := toNat_le_of_le h0.1
    have hhigh := toNat_le_of_le h0.2
    have hback : '0'.toNat + (c.toNat - '0'.toNat + 52 - 52) = c.toNat := by omega
    refine ⟨by omega, ?_⟩
    rw [letter, if_neg (by omega), if_neg (by omega), if_pos (by omega), hback, Char.ofNat_toNat]
  · cases h
    exact ⟨by omega, hplus.symm⟩
  · cases h
    exact ⟨by omega, hslash.symm⟩

/-! ### Bytes from the six bits of each letter -/

theorem ofNat_first (a : UInt8) {x : Nat} (hx : x < 16) :
    UInt8.ofNat (a.toNat / 4 * 4 + (a.toNat % 4 * 16 + x) / 16) = a := by
  have hbits : a.toNat / 4 * 4 + (a.toNat % 4 * 16 + x) / 16 = a.toNat := by omega
  rw [hbits, UInt8.ofNat_toNat]

theorem ofNat_second (b : UInt8) (x : Nat) {y : Nat} (hy : y < 4) :
    UInt8.ofNat ((x * 16 + b.toNat / 16) % 16 * 16 + (b.toNat % 16 * 4 + y) / 4) = b := by
  have hb : b.toNat < 256 := b.toNat_lt
  have hbits : (x * 16 + b.toNat / 16) % 16 * 16 + (b.toNat % 16 * 4 + y) / 4 = b.toNat := by omega
  rw [hbits, UInt8.ofNat_toNat]

theorem ofNat_third (c : UInt8) (x : Nat) :
    UInt8.ofNat ((x * 4 + c.toNat / 64) % 4 * 64 + c.toNat % 64) = c := by
  have hc : c.toNat < 256 := c.toNat_lt
  have hbits : (x * 4 + c.toNat / 64) % 4 * 64 + c.toNat % 64 = c.toNat := by omega
  rw [hbits, UInt8.ofNat_toNat]

theorem decode?_encode (bytes : List UInt8) : decode? (encode bytes) = some bytes := by
  fun_induction encode bytes with
  | case1 => rfl
  | case2 a =>
    have ha : a.toNat < 256 := a.toNat_lt
    have hp := letterValue?_letter (show a.toNat / 4 < 64 by omega)
    have hq := letterValue?_letter (show a.toNat % 4 * 16 < 64 by omega)
    have hzero : a.toNat % 4 * 16 % 16 = 0 := by omega
    have hfirst := ofNat_first a (show 0 < 16 by omega)
    simp only [decode?, hp, hq, Option.bind_eq_bind, Option.bind_some, hzero, if_true]
    exact congrArg (fun byte => some [byte]) hfirst
  | case3 a b =>
    have ha : a.toNat < 256 := a.toNat_lt
    have hb : b.toNat < 256 := b.toNat_lt
    have hp := letterValue?_letter (show a.toNat / 4 < 64 by omega)
    have hq := letterValue?_letter (show a.toNat % 4 * 16 + b.toNat / 16 < 64 by omega)
    have hr := letterValue?_letter (show b.toNat % 16 * 4 < 64 by omega)
    have hzero : b.toNat % 16 * 4 % 4 = 0 := by omega
    have hfirst := ofNat_first a (show b.toNat / 16 < 16 by omega)
    have hsecond := ofNat_second b (a.toNat % 4) (show 0 < 4 by omega)
    rw [decode?]
    · simp only [hp, hq, hr, Option.bind_eq_bind, Option.bind_some, hzero, if_true, hfirst]
      exact congrArg (fun byte => some [a, byte]) hsecond
    · exact letter_ne_pad (by omega)
  | case4 a b c rest ih =>
    have ha : a.toNat < 256 := a.toNat_lt
    have hb : b.toNat < 256 := b.toNat_lt
    have hc : c.toNat < 256 := c.toNat_lt
    have hp := letterValue?_letter (show a.toNat / 4 < 64 by omega)
    have hq := letterValue?_letter (show a.toNat % 4 * 16 + b.toNat / 16 < 64 by omega)
    have hr := letterValue?_letter (show b.toNat % 16 * 4 + c.toNat / 64 < 64 by omega)
    have hs := letterValue?_letter (show c.toNat % 64 < 64 by omega)
    have hfirst := ofNat_first a (show b.toNat / 16 < 16 by omega)
    have hsecond := ofNat_second b (a.toNat % 4) (show c.toNat / 64 < 4 by omega)
    have hthird := ofNat_third c (b.toNat % 16)
    rw [decode?]
    · simp only [hp, hq, hr, hs, ih, Option.bind_eq_bind, Option.bind_some, hfirst, hsecond, hthird]
    · intro hpad
      exact absurd hpad (letter_ne_pad (by omega))
    · intro hpad
      exact absurd hpad (letter_ne_pad (by omega))

theorem encode_of_decode? {text : List Char} {bytes : List UInt8} (h : decode? text = some bytes) :
    encode bytes = text := by
  fun_induction decode? text generalizing bytes with
  | case1 =>
    cases h
    rfl
  | case2 p q =>
    simp only [Option.bind_eq_bind, Option.bind_eq_some_iff] at h
    obtain ⟨x, hp, y, hq, h⟩ := h
    obtain ⟨hx, rfl⟩ := letter_of_letterValue? hp
    obtain ⟨hy, rfl⟩ := letter_of_letterValue? hq
    split_ifs at h with hzero
    cases h
    have hbyte := UInt8.toNat_ofNat_of_lt' (show x * 4 + y / 16 < 256 by omega)
    have hfirst : (x * 4 + y / 16) / 4 = x := by omega
    have hsecond : (x * 4 + y / 16) % 4 * 16 = y := by omega
    simp only [encode, hbyte, hfirst, hsecond]
  | case3 p q r =>
    simp only [Option.bind_eq_bind, Option.bind_eq_some_iff] at h
    obtain ⟨x, hp, y, hq, z, hr, h⟩ := h
    obtain ⟨hx, rfl⟩ := letter_of_letterValue? hp
    obtain ⟨hy, rfl⟩ := letter_of_letterValue? hq
    obtain ⟨hz, rfl⟩ := letter_of_letterValue? hr
    split_ifs at h with hzero
    cases h
    have hbyte := UInt8.toNat_ofNat_of_lt' (show x * 4 + y / 16 < 256 by omega)
    have hnext := UInt8.toNat_ofNat_of_lt' (show y % 16 * 16 + z / 4 < 256 by omega)
    have hfirst : (x * 4 + y / 16) / 4 = x := by omega
    have hsecond : (x * 4 + y / 16) % 4 * 16 + (y % 16 * 16 + z / 4) / 16 = y := by omega
    have hthird : (y % 16 * 16 + z / 4) % 16 * 4 = z := by omega
    simp only [encode, hbyte, hnext, hfirst, hsecond, hthird]
  | case4 p q r s rest _ _ ih =>
    simp only [Option.bind_eq_bind, Option.bind_eq_some_iff] at h
    obtain ⟨x, hp, y, hq, z, hr, w, hs, more, hmore, h⟩ := h
    obtain ⟨hx, rfl⟩ := letter_of_letterValue? hp
    obtain ⟨hy, rfl⟩ := letter_of_letterValue? hq
    obtain ⟨hz, rfl⟩ := letter_of_letterValue? hr
    obtain ⟨hw, rfl⟩ := letter_of_letterValue? hs
    cases h
    have hbyte := UInt8.toNat_ofNat_of_lt' (show x * 4 + y / 16 < 256 by omega)
    have hnext := UInt8.toNat_ofNat_of_lt' (show y % 16 * 16 + z / 4 < 256 by omega)
    have hlast := UInt8.toNat_ofNat_of_lt' (show z % 4 * 64 + w < 256 by omega)
    have hfirst : (x * 4 + y / 16) / 4 = x := by omega
    have hsecond : (x * 4 + y / 16) % 4 * 16 + (y % 16 * 16 + z / 4) / 16 = y := by omega
    have hthird : (y % 16 * 16 + z / 4) % 16 * 4 + (z % 4 * 64 + w) / 64 = z := by omega
    have hfourth : (z % 4 * 64 + w) % 64 = w := by omega
    simp only [encode, hbyte, hnext, hlast, hfirst, hsecond, hthird, hfourth, ih hmore]
  | case5 => cases h

/-- A text is read as some bytes exactly if it is the text that is written for them. -/
theorem decodeText?_eq_some_iff {text : String} {bytes : List UInt8} :
    decodeText? text = some bytes ↔ text = encodeText bytes := by
  rw [decodeText?, encodeText]
  constructor
  · intro h
    rw [encode_of_decode? h, String.ofList_toList]
  · rintro rfl
    rw [String.toList_ofList]
    exact decode?_encode bytes

/-! ### What the text of bytes is -/

/-- The six bits of a letter, two at a time. -/
def letterBits (n : Nat) : List Nat := [n / 16, n / 4 % 4, n % 4]

/-- The eight bits of a byte, two at a time. -/
def byteBits (byte : UInt8) : List Nat :=
  [byte.toNat / 64, byte.toNat / 16 % 4, byte.toNat / 4 % 4, byte.toNat % 4]

/-- The letters have the bits of the bytes in their order. Each `=` after them stands for two bits
that are zero and belong to no byte. -/
def Canonical (text : List Char) (bytes : List UInt8) : Prop :=
  ∃ values : List Nat, ∃ padding < 3,
    text = values.map letter ++ List.replicate padding '=' ∧ (∀ n ∈ values, n < 64) ∧
      values.flatMap letterBits = bytes.flatMap byteBits ++ List.replicate padding 0

theorem canonical_encode (bytes : List UInt8) : Canonical (encode bytes) bytes := by
  fun_induction encode bytes with
  | case1 => exact ⟨[], 0, by decide, rfl, by simp, rfl⟩
  | case2 a =>
    have ha : a.toNat < 256 := a.toNat_lt
    refine ⟨[a.toNat / 4, a.toNat % 4 * 16], 2, by decide, rfl, ?_, ?_⟩
    · simp
      omega
    · simp [letterBits, byteBits, List.replicate]
      omega
  | case3 a b =>
    have ha : a.toNat < 256 := a.toNat_lt
    have hb : b.toNat < 256 := b.toNat_lt
    refine ⟨[a.toNat / 4, a.toNat % 4 * 16 + b.toNat / 16, b.toNat % 16 * 4], 1, by decide, rfl,
      ?_, ?_⟩
    · simp
      omega
    · simp [letterBits, byteBits, List.replicate]
      omega
  | case4 a b c rest ih =>
    have ha : a.toNat < 256 := a.toNat_lt
    have hb : b.toNat < 256 := b.toNat_lt
    have hc : c.toNat < 256 := c.toNat_lt
    obtain ⟨values, padding, hpadding, htext, hsmall, hbits⟩ := ih
    refine ⟨a.toNat / 4 :: (a.toNat % 4 * 16 + b.toNat / 16) ::
      (b.toNat % 16 * 4 + c.toNat / 64) :: c.toNat % 64 :: values, padding, hpadding, ?_, ?_, ?_⟩
    · simp [htext]
    · simp only [List.forall_mem_cons]
      exact ⟨by omega, by omega, by omega, by omega, hsmall⟩
    · simp [letterBits, byteBits, hbits]
      omega

theorem length_letterBits (values : List Nat) :
    (values.flatMap letterBits).length = 3 * values.length := by
  induction values with
  | nil => rfl
  | cons n rest ih =>
    simp [letterBits, ih]
    omega

theorem length_byteBits (bytes : List UInt8) :
    (bytes.flatMap byteBits).length = 4 * bytes.length := by
  induction bytes with
  | nil => rfl
  | cons byte rest ih =>
    simp [byteBits, ih]
    omega

theorem eq_of_letterBits {values others : List Nat}
    (h : values.flatMap letterBits = others.flatMap letterBits) : values = others := by
  induction values generalizing others with
  | nil =>
    cases others with
    | nil => rfl
    | cons m more => simp [letterBits] at h
  | cons n rest ih =>
    cases others with
    | nil => simp [letterBits] at h
    | cons m more =>
      simp only [List.flatMap_cons, letterBits, List.cons_append, List.nil_append,
        List.cons.injEq] at h
      obtain ⟨hhigh, hmiddle, hlow, hrest⟩ := h
      have hsame : n = m := by omega
      rw [hsame, ih hrest]

/-- There is one canonical text of a byte sequence, and it is the one that is written. -/
theorem canonical_iff {text : String} {bytes : List UInt8} :
    Canonical text.toList bytes ↔ text = encodeText bytes := by
  rw [encodeText]
  constructor
  · rintro ⟨values, padding, hpadding, htext, -, hbits⟩
    obtain ⟨others, filling, hfilling, hencode, -, hothers⟩ := canonical_encode bytes
    have hlength := congrArg List.length hbits
    have hlength' := congrArg List.length hothers
    simp only [length_letterBits, List.length_append, length_byteBits,
      List.length_replicate] at hlength hlength'
    -- Six bits a letter and eight bits a byte leave one choice of less than three pairs of bits.
    have hsame : padding = filling := by omega
    subst hsame
    rw [hencode, eq_of_letterBits (hothers.trans hbits.symm), ← htext, String.ofList_toList]
  · rintro rfl
    rw [String.toList_ofList]
    exact canonical_encode bytes

end ItemStore.Base64
