import ItemStore.Proofs.Json.ReaderSteps
import ItemStore.Proofs.Json.StringGrammar

/-! # Control characters in JSON texts

Of the control characters a JSON text may hold only those that are blanks. The reader passes over
no other one, whether it stands in a string, between two values or in a part that is skipped later.
-/
namespace ItemStore.Json
open Text (Symbol)
open Number (isDigit natOfDigits)

/-- A symbol that may stand in a JSON text. A gap stands for a byte beyond ASCII. -/
def Allowed (s : Symbol) : Prop := ∀ c ∈ s, isSpace c = true ∨ 0x20 ≤ c.toNat

/-- The rest of a text is reached over symbols that may stand in a JSON text. -/
def Passes (text rest : List Symbol) : Prop := ∃ passed, text = passed ++ rest ∧ ∀ s ∈ passed, Allowed s

section Passing
variable {text rest more : List Symbol} {c : Char}

theorem allowed_of_le (h : 0x20 ≤ c.toNat) : Allowed (some c) := by
  rintro _ ⟨⟩
  exact .inr h

theorem allowed_of_isSpace (h : isSpace c = true) : Allowed (some c) := by
  rintro _ ⟨⟩
  exact .inl h

namespace Passes

theorem refl (text : List Symbol) : Passes text text := ⟨[], rfl, by simp⟩

theorem trans (h : Passes text rest) (hmore : Passes rest more) : Passes text more := by
  obtain ⟨passed, rfl, hpassed⟩ := h
  obtain ⟨others, rfl, hothers⟩ := hmore
  refine ⟨passed ++ others, (List.append_assoc ..).symm, fun s hs => ?_⟩
  exact (List.mem_append.mp hs).elim (hpassed s) (hothers s)

theorem cons {s : Symbol} (hs : Allowed s) (h : Passes text rest) : Passes (s :: text) rest := by
  obtain ⟨passed, rfl, hpassed⟩ := h
  exact ⟨s :: passed, rfl, List.forall_mem_cons.mpr ⟨hs, hpassed⟩⟩

theorem char (hc : 0x20 ≤ c.toNat) (h : Passes text rest) : Passes (some c :: text) rest :=
  h.cons (allowed_of_le hc)

theorem word (cs : List Char) (hcs : (cs.all fun c => 0x20 ≤ c.toNat) = true)
    (h : Passes text rest) : Passes (cs.map some ++ text) rest := by
  induction cs with
  | nil => exact h
  | cons c cs ih =>
    obtain ⟨hc, hcs⟩ := Bool.and_eq_true_iff.mp hcs
    exact (ih hcs).char (of_decide_eq_true hc)

/-- Over what is left of a text that is passed without a rest. -/
theorem allowed (h : Passes text []) : ∀ s ∈ text, Allowed s := by
  obtain ⟨passed, rfl, hpassed⟩ := h
  simpa using hpassed

end Passes

end Passing

variable {text rest : List Symbol}

theorem passes_skipSpaces (text : List Symbol) : Passes text (skipSpaces text) := by
  obtain ⟨spaces, hspaces, htext⟩ := exists_spaces_append text
  refine ⟨spaces.map some, htext, fun s hs => ?_⟩
  obtain ⟨c, hc, rfl⟩ := List.mem_map.mp hs
  exact allowed_of_isSpace (hspaces c hc)

theorem passes_mark {c : Char} (hc : 0x20 ≤ c.toNat) (h : skipSpaces text = some c :: rest) :
    Passes text rest := by
  have hspaces := passes_skipSpaces text
  rw [h] at hspaces
  exact hspaces.trans (.char hc (.refl rest))

/-- A class of characters that begins above the controls. -/
theorem le_of_char_le {c low : Char} (hlow : 0x20 ≤ low.toNat) (h : low ≤ c) : 0x20 ≤ c.toNat :=
  Nat.le_trans hlow (UInt32.le_iff_toNat_le.mp h)

theorem le_of_hexValue? {c : Char} (h : (hexValue? c).isSome) : 0x20 ≤ c.toNat := by
  have hclass : '0' ≤ c ∨ 'a' ≤ c ∨ 'A' ≤ c := by
    unfold hexValue? at h
    grind
  rcases hclass with h | h | h
  all_goals exact le_of_char_le (by decide) h

theorem le_of_isDigit {c : Char} (h : isDigit c = true) : 0x20 ≤ c.toNat :=
  le_of_char_le (by decide) (of_decide_eq_true (Bool.and_eq_true_iff.mp h).1 : '0' ≤ c)

theorem IsLetter.le {c : Char} (h : IsLetter c) : 0x20 ≤ c.toNat := by
  unfold IsLetter escapedChar? at h
  split at h <;> first | decide | cases h

/-! ### Strings -/

theorem StringBody.allowed {body : List Symbol} (h : StringBody body) : ∀ s ∈ body, Allowed s := by
  have hescape (c : Char) (hc : 0x20 ≤ c.toNat) (body : List Symbol) (h : ∀ s ∈ body, Allowed s) :
      ∀ s ∈ some '\\' :: some c :: body, Allowed s := by
    simpa using ⟨allowed_of_le (by decide), allowed_of_le hc, h⟩
  induction h with
  | nil => simp
  | plain hs _ ih => exact List.forall_mem_cons.mpr ⟨fun c hc => .inr (hs c hc).1, ih⟩
  | letter hc _ ih => exact hescape _ hc.le _ ih
  | code hcode _ ih =>
    simp only [List.forall_mem_cons] at hcode
    obtain ⟨ha, hb, hc, hd, -⟩ := hcode
    apply hescape 'u' (by decide)
    simpa using ⟨allowed_of_le (le_of_hexValue? ha), allowed_of_le (le_of_hexValue? hb),
      allowed_of_le (le_of_hexValue? hc), allowed_of_le (le_of_hexValue? hd), ih⟩

theorem passes_readString? {fuel : Nat} {taken : Option (List Char)} {value : Option String}
    (h : readString? fuel taken text = some (value, rest)) : Passes text rest := by
  obtain ⟨body, hbody, rfl⟩ := inString_of_readString? h
  exact .trans ⟨body, rfl, StringBody.allowed hbody⟩ (.char (by decide) (.refl rest))

/-! ### Numbers -/

theorem passes_takeDigits (text : List Symbol) : Passes text (takeDigits text).2 := by
  fun_induction takeDigits text with
  | case1 c rest hdigit digits after hrest ih =>
    rw [hrest] at ih
    exact ih.char (le_of_isDigit hdigit)
  | case2 c rest hdigit => exact .refl _
  | case3 text hother => exact .refl _

theorem passes_readExponent? {exponent : Option Int}
    (h : readExponent? text = some (exponent, rest)) : Passes text rest := by
  have hdigits {text : List Symbol} {negative : Bool}
      (h : (if (takeDigits text).1.isEmpty then none
        else some (some (if negative then -(natOfDigits (takeDigits text).1 : Int)
          else natOfDigits (takeDigits text).1), (takeDigits text).2)) = some (exponent, rest)) :
      Passes text rest := by
    split at h
    · cases h
    · cases h
      exact passes_takeDigits text
  unfold readExponent? at h
  split at h
  · next c more =>
    split at h
    · next hc =>
      have hletter : 0x20 ≤ c.toNat := by
        rcases hc with rfl | rfl
        all_goals decide
      apply Passes.char hletter
      dsimp only at h
      split at h
      · exact (hdigits h).char (by decide)
      · exact (hdigits h).char (by decide)
      · exact hdigits h
    · cases h
      exact .refl _
  · cases h
    exact .refl _

theorem passes_readNumeral? {w : Written} (h : readNumeral? text = some (w, rest)) :
    Passes text rest := by
  have hend {negative : Bool} {whole fraction : List Char} {text : List Symbol}
      (h : ((readExponent? text).bind fun read =>
        some (Written.number (numeralValue? negative whole fraction read.1), read.2)) =
          some (w, rest)) :
      Passes text rest := by
    obtain ⟨⟨exponent, after⟩, hread, hsome⟩ := Option.bind_eq_some_iff.mp h
    cases hsome
    exact passes_readExponent? hread
  unfold readNumeral? at h
  dsimp only at h
  -- With a minus before the digits and without.
  split at h
  case' h_1 => apply Passes.char (by decide)
  all_goals
    apply (passes_takeDigits _).trans
    split at h
    · cases h
    split at h
    · next more hpoint =>
      rw [hpoint]
      apply Passes.char (by decide)
      split at h
      · cases h
      · exact (passes_takeDigits more).trans (hend h)
    · exact hend h

/-! ### Values -/

/-- By induction on the steps that are left, for values, items and members at once. -/
theorem read_passes (fuel : Nat) :
    (∀ text w rest, readValue? fuel text = some (w, rest) → Passes text rest) ∧
    (∀ text items rest, readItems? fuel text = some (items, rest) → Passes text rest) ∧
    ∀ text members rest, readMembers? fuel text = some (members, rest) → Passes text rest := by
  induction fuel with
  | zero =>
    refine ⟨?_, ?_, ?_⟩
    · intro text w rest h
      cases h
    · intro text items rest h
      cases h
    · intro text members rest h
      cases h
  | succ fuel ih =>
    obtain ⟨ihvalue, ihitems, ihmembers⟩ := ih
    refine ⟨?_, ?_, ?_⟩
    · intro text w rest h
      apply (passes_skipSpaces text).trans
      have hstep := valueStep_of_readValue? h
      generalize skipSpaces text = start at hstep
      cases hstep with
      | emptyObject hclose | emptyArray hclose => exact (passes_mark (by decide) hclose).char (by decide)
      | object hmembers =>
        exact ((passes_skipSpaces _).trans (ihmembers _ _ _ hmembers)).char (by decide)
      | array hitems => exact ((passes_skipSpaces _).trans (ihitems _ _ _ hitems)).char (by decide)
      | string hstring => exact (passes_readString? hstring).char (by decide)
      | null | true | false => exact Passes.word _ (by decide) (.refl _)
      | number hnumeral => exact passes_readNumeral? hnumeral
    · intro text items rest h
      cases itemsStep_of_readItems? h with
      | last hitem hclose => exact (ihvalue _ _ _ hitem).trans (passes_mark (by decide) hclose)
      | more hitem hcomma hitems =>
        have hafter := (passes_mark (by decide) hcomma).trans (ihitems _ _ _ hitems)
        exact (ihvalue _ _ _ hitem).trans hafter
    · intro text members rest h
      apply (passes_skipSpaces text).trans
      have hstep := membersStep_of_readMembers? h
      generalize skipSpaces text = start at hstep
      cases hstep with
      | last hname hcolon hvalue hclose =>
        have hbehind := (passes_readString? hname).trans (passes_mark (by decide) hcolon)
        have hafter := (ihvalue _ _ _ hvalue).trans (passes_mark (by decide) hclose)
        exact (hbehind.trans hafter).char (by decide)
      | more hname hcolon hvalue hcomma hmembers =>
        have hbehind := (passes_readString? hname).trans (passes_mark (by decide) hcolon)
        have hafter := (ihvalue _ _ _ hvalue).trans (passes_mark (by decide) hcomma)
        exact ((hbehind.trans hafter).trans (ihmembers _ _ _ hmembers)).char (by decide)

theorem allowed_of_read? {w : Written} (h : Written.read? text = some w) :
    ∀ s ∈ text, Allowed s := by
  unfold Written.read? at h
  split at h
  · next written rest hread =>
    split at h
    · next hend =>
      have hpasses := ((read_passes _).1 _ _ _ hread).trans (passes_skipSpaces rest)
      rw [List.isEmpty_iff.mp hend] at hpasses
      exact hpasses.allowed
    · cases h
  · cases h

end ItemStore.Json
