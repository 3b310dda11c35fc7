import Mathlib.Tactic.SplitIfs

/-! # Texts in the order of their bytes

Texts are compared by code points. The encoding of a character is never the beginning of another
one's, and the greater character has the greater encoding, so the bytes of two texts compare the
same way.
-/
namespace ItemStore.Text

def bytes (text : String) : List UInt8 := text.toUTF8.data.toList

/-- Byte by byte, the second text does not come before the first. -/
def BytewiseLE (a b : String) : Prop := ¬ List.Lex (· < ·) (bytes b) (bytes a)

theorem bytes_eq_flatMap (text : String) :
    bytes text = text.toList.flatMap String.utf8EncodeChar := by
  rw [bytes, String.toUTF8, ← String.utf8Encode_toList, List.utf8Encode, List.data_toByteArray]

theorem lt_digits {m n : Nat} (h : m < n) :
    m / 262144 < n / 262144 ∨ m / 262144 = n / 262144 ∧
      (m / 4096 % 64 < n / 4096 % 64 ∨ m / 4096 % 64 = n / 4096 % 64 ∧
        (m / 64 % 64 < n / 64 % 64 ∨ m / 64 % 64 = n / 64 % 64 ∧ m % 64 < n % 64)) := by
  have htwo (k : Nat) : k / 4096 = k / 64 / 64 := by rw [Nat.div_div_eq_div_mul]
  have hthree (k : Nat) : k / 262144 = k / 64 / 64 / 64 := by
    rw [Nat.div_div_eq_div_mul, Nat.div_div_eq_div_mul]
  have hlast : m / 64 < n / 64 ∨ m / 64 = n / 64 ∧ m % 64 < n % 64 := by omega
  have hmiddle : m / 64 / 64 < n / 64 / 64 ∨
      m / 64 / 64 = n / 64 / 64 ∧ m / 64 % 64 ≤ n / 64 % 64 := by omega
  rw [htwo, htwo, hthree, hthree]
  omega

/-- The lesser character has the lesser encoding, and the bytes that differ lie in both. -/
theorem encode_append_lex {c d : Char} (h : c < d) (x y : List UInt8) :
    List.Lex (· < ·) (String.utf8EncodeChar c ++ x) (String.utf8EncodeChar d ++ y) := by
  have hlt : c.val.toNat < d.val.toNat := h
  have hmax : d.val.toNat < 0x110000 := by
    rcases d.valid with h | h <;> omega
  have hlead (n : Nat) (hn : n < 0x110000) : (n / 262144 % 8 + 240) % 2 ^ 8 = n / 262144 + 240 := by
    omega
  have hnext (n : Nat) : (n % 64 + 128) % 2 ^ 8 = n % 64 + 128 := by omega
  have hdigits := lt_digits hlt
  unfold String.utf8EncodeChar
  dsimp only
  -- a longer encoding begins with a greater byte, and encodings of one length compare by digits
  split_ifs <;>
    simp only [List.cons_append, List.nil_append, List.cons_lex_cons_iff, UInt8.lt_iff_toNat_lt,
      ← UInt8.toNat_inj, UInt8.toNat_ofNat', hlead _ hmax, hlead _ (Nat.lt_trans hlt hmax), hnext] <;>
    omega

theorem encode_ne_nil (c : Char) : String.utf8EncodeChar c ≠ [] := by
  unfold String.utf8EncodeChar
  dsimp only
  split_ifs <;> exact List.cons_ne_nil _ _

theorem flatMap_encode_lex {a b : List Char} (h : List.Lex (· < ·) a b) :
    List.Lex (· < ·) (a.flatMap String.utf8EncodeChar) (b.flatMap String.utf8EncodeChar) := by
  induction h with
  | @nil d b =>
    obtain ⟨byte, rest, hbytes⟩ := List.exists_cons_of_ne_nil (encode_ne_nil d)
    rw [List.flatMap_nil, List.flatMap_cons, hbytes]
    exact .nil
  | rel hlt =>
    rw [List.flatMap_cons, List.flatMap_cons]
    exact encode_append_lex hlt _ _
  | cons _ ih =>
    rw [List.flatMap_cons, List.flatMap_cons]
    exact List.append_left_lt ih

theorem bytewiseLE_of_le {a b : String} (h : a ≤ b) : BytewiseLE a b := by
  intro hlex
  rw [bytes_eq_flatMap, bytes_eq_flatMap] at hlex
  rcases Std.lt_trichotomy b a with hlt | rfl | hlt
  · exact h hlt
  · exact List.lex_irrefl (fun byte => UInt8.lt_irrefl byte) _ hlex
  · exact List.lex_asymm UInt8.lt_asymm hlex (flatMap_encode_lex hlt)

end ItemStore.Text
