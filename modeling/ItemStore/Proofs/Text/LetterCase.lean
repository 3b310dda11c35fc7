import ItemStore.Text.CaseFold
import ItemStore.Text.Letter
import Mathlib.Data.Bool.AllAny
import Mathlib.Data.List.Infix

/-! # Case maps, read backwards

What a character can be, given what its case maps to. The blanks, the digits and most marks come
before the capital letters and stand for themselves only. Most capital letters come from a letter of
ASCII alone; the others also begin or end the longer forms of further characters.
-/
namespace ItemStore.Text

/-- A property of the first characters is checked number by number. -/
@[elab_as_elim]
theorem of_toNat_lt {P : Char → Prop} {bound : Nat} {c : Char} (hc : c.toNat < bound)
    (h : ∀ n < bound, P (Char.ofNat n)) : P c := by
  rw [← Char.ofNat_toNat c]
  exact h c.toNat hc

theorem case_maps_of_ascii {c : Char} (hc : c.toNat < 0x80) :
    c.toUpper.toLower = c.toLower ∧ c.toLower.toUpper = c.toUpper ∧ c.toLower.toNat < 0x80 :=
  of_toNat_lt hc (by decide +kernel)

theorem toNat_lt_of_toLower {c : Char} (h : c.toLower.toNat < 0x80) : c.toNat < 0x80 := by
  unfold Char.toLower at h
  split at h
  · next hupper =>
    have hhigh : c.toNat ≤ 90 := hupper.2
    omega
  · exact h

theorem toLower_of_le {c : Char} (h : 0x80 ≤ c.toNat) : c.toLower = c := by
  unfold Char.toLower
  split
  · next hupper =>
    have hhigh : c.toNat ≤ 90 := hupper.2
    omega
  · rfl

/-! ### Capital letters -/

/-- The ASCII characters in the upper-case forms of characters beyond ASCII. -/
def expanded : List Char := ['A', 'F', 'H', 'I', 'J', 'L', 'N', 'S', 'T', 'W', 'Y']

theorem upper_cases (c : Char) :
    (c.toNat < 0x80 ∧ upper c = [c.toUpper]) ∨ (0x80 ≤ c.toNat ∧ upper c = [c]) ∨
      ∀ d ∈ upper c, d ∈ expanded ∨ 0x80 ≤ d.toNat := by
  unfold upper
  split
  · next hascii => exact .inl ⟨hascii, rfl⟩
  · next hascii =>
    right
    split
    case h_18 => exact .inl ⟨by omega, rfl⟩
    all_goals exact .inr (List.all_iff_forall_prop.mp (by decide))

theorem upper_ne_nil (c : Char) : upper c ≠ [] := by
  unfold upper
  split
  · exact List.cons_ne_nil _ _
  · split <;> exact List.cons_ne_nil _ _

structure IsOwnUpper (d : Char) : Prop where
  ascii : d.toNat < 0x80
  upper : d.toUpper = d
  own : d ∉ expanded

instance (d : Char) : Decidable (IsOwnUpper d) :=
  decidable_of_iff (d.toNat < 0x80 ∧ d.toUpper = d ∧ d ∉ expanded)
    ⟨fun ⟨ascii, upper, own⟩ => ⟨ascii, upper, own⟩, fun ⟨ascii, upper, own⟩ => ⟨ascii, upper, own⟩⟩

theorem upper_of_toLower_eq {c d : Char} (hd : IsOwnUpper d) (h : c.toLower = d.toLower) :
    upper c = [d] := by
  obtain ⟨-, hdown, hlow⟩ := case_maps_of_ascii hd.ascii
  have hc : c.toNat < 0x80 := toNat_lt_of_toLower (by rw [h]; exact hlow)
  obtain ⟨-, hcdown, -⟩ := case_maps_of_ascii hc
  rw [upper_of_ascii hc, ← hcdown, h, hdown, hd.upper]

/-- Such a character comes from a letter of ASCII alone. -/
theorem upper_of_mem {c d : Char} (hd : IsOwnUpper d) (h : d ∈ upper c) :
    c.toLower = d.toLower ∧ upper c = [d] := by
  obtain ⟨hascii, hupper⟩ | ⟨hbeyond, hupper⟩ | hexpanded := upper_cases c
  · rw [hupper, List.mem_singleton] at h
    subst h
    exact ⟨(case_maps_of_ascii hascii).1.symm, hupper⟩
  · rw [hupper, List.mem_singleton] at h
    subst h
    have := hd.ascii
    omega
  · have := (hexpanded d h).resolve_left hd.own
    have := hd.ascii
    omega

/-- A `Y` is the form of the letter of ASCII, or begins the form of the one with a ring. -/
theorem head?_upper_eq_y {c : Char} :
    (upper c).head? = some 'Y' ↔ c.toLower = 'y' ∨ c.toLower = '\u1E99' := by
  constructor
  · intro h
    unfold upper at h
    split at h
    · next hascii =>
      obtain ⟨hlower, -⟩ := case_maps_of_ascii hascii
      have hy : c.toUpper = 'Y' := Option.some.inj h
      exact .inl (by rw [← hlower, hy]; decide)
    · next hascii =>
      split at h
      case h_9 heq => exact .inr (by rw [toLower_of_le (by omega), ← Char.ofNat_toNat c, heq])
      case h_18 =>
        obtain rfl : c = 'Y' := Option.some.inj h
        exact absurd (by decide) hascii
      all_goals exact absurd h (by decide)
  · rintro (hlower | hlower)
    · have hc : c.toNat < 0x80 := toNat_lt_of_toLower (by rw [hlower]; decide)
      obtain ⟨-, hupper, -⟩ := case_maps_of_ascii hc
      rw [upper_of_ascii hc, ← hupper, hlower]
      decide
    · have hc : 0x80 ≤ c.toNat := by
        refine Nat.le_of_not_lt fun hascii => ?_
        obtain ⟨-, -, hlt⟩ := case_maps_of_ascii hascii
        exact absurd hlt (by rw [hlower]; decide)
      rw [toLower_of_le hc] at hlower
      rw [hlower]
      decide

/-! ### Characters without case -/

/-- A character before the capital letters, other than the null character. -/
def IsCaseless (c : Char) : Prop := 0 < c.toNat ∧ c.toNat < 'A'.toNat

instance (c : Char) : Decidable (IsCaseless c) := inferInstanceAs (Decidable (_ ∧ _))

section Caseless
variable {c d : Char} (hd : IsCaseless d)
include hd

theorem IsCaseless.maps : IsOwnUpper d ∧ d.toLower = d := of_toNat_lt hd.2 (by decide +kernel)

theorem eq_of_toLower (h : c.toLower = d) : c = d := by
  unfold Char.toLower at h
  split at h
  · next hupper =>
    have hlow : 65 ≤ c.val.toNat := hupper.1
    have hhigh : c.val.toNat ≤ 90 := hupper.2
    have hsum : (c.val.toNat + 32) % 2 ^ 32 = d.toNat := by
      have hval : c.val + 32 = d.val := congrArg Char.val h
      exact congrArg UInt32.toNat hval
    have hcapital : d.toNat < 65 := hd.2
    omega
  · exact h

theorem eq_of_mem_upper (h : d ∈ upper c) : c = d := by
  obtain ⟨hown, hself⟩ := hd.maps
  obtain ⟨hlower, -⟩ := upper_of_mem hown h
  exact eq_of_toLower hd (hlower.trans hself)

theorem ofNat_ne {n : Nat} (hn : 'A'.toNat ≤ n) : Char.ofNat n ≠ d := by
  rintro rfl
  obtain ⟨hpos, hlt⟩ := hd
  rw [Char.ofNat] at hpos hlt
  by_cases hvalid : n.isValidChar
  · rw [dif_pos hvalid] at hlt
    have hnat : (Char.ofNatAux n hvalid).toNat = n := rfl
    omega
  · rw [dif_neg hvalid] at hpos
    exact absurd hpos (by decide)

/-- Folding leads to small letters and beyond, so only the character itself is a variant of it. -/
theorem eq_of_sameLetter (h : sameLetter c d = true) : c = d := by
  have htargets : ∀ run ∈ foldRuns, 'A'.toNat ≤ run.target := by decide +kernel
  have hself : foldCase d = d := by rw [foldCase_of_ascii hd.maps.1.ascii, hd.maps.2]
  rw [sameLetter, hself, beq_iff_eq, foldCase] at h
  split at h
  · exact eq_of_toLower hd h
  · split at h
    · next run hrun =>
      have htarget := htargets run (List.mem_of_find?_eq_some hrun)
      exact absurd h (ofNat_ne hd (by omega))
    · exact h

end Caseless

end ItemStore.Text
