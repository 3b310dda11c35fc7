import ItemStore.Json.Printer
import ItemStore.Proofs.Json.NumberRange
import ItemStore.Proofs.Number.Numerals

/-! # How a JSON text begins

The first character tells what kind of value is written: a number begins with a digit or a minus, and
no text begins with a capital letter.
-/
namespace ItemStore
open Number (isDigit natText Decimal Binary64 intText)

namespace Number
variable {text : List Char}

theorem isUpper_of_isDigit {c : Char} (h : isDigit c = true) : c.isUpper = false := by
  rw [isDigit, Bool.and_eq_true, decide_eq_true_eq, decide_eq_true_eq] at h
  have hnine : c.toNat ≤ 57 := UInt32.le_iff_toNat_le.mp h.2
  refine decide_eq_false ?_
  rintro ⟨hcapital, -⟩
  have hletter : 65 ≤ c.toNat := UInt32.le_iff_toNat_le.mp hcapital
  omega

def BeginsNumeral (text : List Char) : Prop := ∃ c rest, text = c :: rest ∧ (c = '-' ∨ isDigit c = true)

theorem beginsNumeral_append {front : List Char} (h : BeginsNumeral front) (back : List Char) :
    BeginsNumeral (front ++ back) := by
  obtain ⟨c, rest, rfl, hc⟩ := h
  exact ⟨c, rest ++ back, rfl, hc⟩

theorem beginsNumeral_digits (hne : text ≠ []) (hdigits : ∀ c ∈ text, isDigit c = true) :
    BeginsNumeral text := by
  obtain ⟨c, rest, rfl⟩ := List.exists_cons_of_ne_nil hne
  exact ⟨c, rest, rfl, .inr (hdigits c List.mem_cons_self)⟩

theorem beginsNumeral_take (n k : Nat) (hk : 0 < k) : BeginsNumeral ((natText n).take k) := by
  refine beginsNumeral_digits ?_ fun c hc => isDigit_of_mem_natText (List.mem_of_mem_take hc)
  rw [Ne, List.take_eq_nil_iff]
  exact not_or.mpr ⟨by omega, natText_ne_nil n⟩

theorem beginsNumeral_natText (n : Nat) : BeginsNumeral (natText n) :=
  beginsNumeral_digits (natText_ne_nil n) fun _ => isDigit_of_mem_natText

theorem beginsNumeral_intText (i : Int) : BeginsNumeral (intText i) := by
  unfold intText
  split
  · exact ⟨'-', _, rfl, .inl rfl⟩
  · exact beginsNumeral_natText _

theorem Decimal.beginsNumeral_text (d : Decimal) (style : Style) : BeginsNumeral (d.text style) := by
  have hpositional (keepPoint : Bool) : BeginsNumeral (d.positionalText keepPoint) := by
    unfold positionalText
    dsimp only
    split
    · rw [List.append_assoc]
      exact beginsNumeral_append (beginsNumeral_natText _) _
    · split
      · exact beginsNumeral_append (beginsNumeral_take _ _ (by omega)) _
      · exact ⟨'0', _, rfl, .inr rfl⟩
  have hscientific : BeginsNumeral d.scientificText := by
    unfold scientificText
    rw [List.append_assoc]
    exact beginsNumeral_append (beginsNumeral_take _ _ Nat.one_pos) _
  unfold text
  split
  · exact hpositional _
  · split
    · exact hpositional _
    · exact hscientific

theorem Binary64.beginsNumeral_text {x : Binary64} (h : x.isFinite = true) (style : Style) :
    BeginsNumeral (x.text style) := by
  match x, h with
  | .finite true m, _ => exact ⟨'-', _, rfl, .inl rfl⟩
  | .finite false m, _ =>
    rw [Binary64.text, signText, if_neg Bool.false_ne_true, List.nil_append]
    split
    · exact Decimal.beginsNumeral_text _ _
    · exact Decimal.beginsNumeral_text _ _

end Number

open Number (BeginsNumeral)

theorem JsonNumber.beginsNumeral_text {n : JsonNumber} (h : n.InRange) : BeginsNumeral n.text := by
  cases n with
  | int i => exact Number.beginsNumeral_intText i
  | float x => exact Binary64.beginsNumeral_text h .document

namespace Json

def Begins (c : Char) : Prop := c ∈ ['n', 't', 'f', '"', '[', '\x7b', '-'] ∨ isDigit c = true

theorem Begins.isUpper {c : Char} (h : Begins c) : c.isUpper = false := by
  rcases h with h | h
  · simp only [List.mem_cons, List.not_mem_nil, or_false] at h
    rcases h with rfl | rfl | rfl | rfl | rfl | rfl | rfl <;> rfl
  · exact Number.isUpper_of_isDigit h

theorem exists_text_eq_cons {json : Json} (h : json.InRange) :
    ∃ c rest, json.text = c :: rest ∧ Begins c := by
  have hlisted {c : Char} {rest : List Char} (hc : c ∈ ['n', 't', 'f', '"', '[', '\x7b', '-']) :
      ∃ d tail, c :: rest = d :: tail ∧ Begins d := ⟨c, rest, rfl, .inl hc⟩
  cases h with
  | null => exact hlisted (by decide)
  | bool b => cases b <;> exact hlisted (by decide)
  | number h =>
    obtain ⟨c, rest, htext, hc⟩ := JsonNumber.beginsNumeral_text h
    refine ⟨c, rest, htext, ?_⟩
    rcases hc with rfl | hdigit
    · exact .inl (by decide)
    · exact .inr hdigit
  | string s => exact hlisted (by decide)
  | @array items => cases items <;> exact hlisted (by decide)
  | @object fields => rcases fields with _ | ⟨⟨name, value⟩, rest⟩ <;> exact hlisted (by decide)

end Json

end ItemStore
