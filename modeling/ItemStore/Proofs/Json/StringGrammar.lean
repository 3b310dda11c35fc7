import ItemStore.Json.Reader

/-! # What stands in a JSON string

Between the quotes of a string stand symbols for themselves, letters after a backslash, and codes of
four hexadecimal digits. The reader takes exactly such strings, whether or not they denote a text.
-/
namespace ItemStore.Json
open Text (Symbol)

/-- What is skipped between the parts of a text are blanks. -/
theorem exists_spaces_append (text : List Symbol) :
    ∃ spaces : List Char, (∀ c ∈ spaces, isSpace c = true) ∧
      text = spaces.map some ++ skipSpaces text := by
  fun_induction skipSpaces text with
  | case1 c rest hspace ih =>
    obtain ⟨spaces, hspaces, htext⟩ := ih
    exact ⟨c :: spaces, List.forall_mem_cons.mpr ⟨hspace, hspaces⟩, congrArg (some c :: ·) htext⟩
  | case2 c rest hspace => exact ⟨[], by simp, rfl⟩
  | case3 text hother => exact ⟨[], by simp, rfl⟩

/-- Symbols that stand for themselves, letters after a backslash, and codes. -/
inductive Spelled (plain : Symbol → Prop) (letter : Char → Prop) : List Symbol → Prop
  | nil : Spelled plain letter []
  | plain {s : Symbol} {rest : List Symbol} (hs : plain s) (h : Spelled plain letter rest) :
      Spelled plain letter (s :: rest)
  | letter {c : Char} {rest : List Symbol} (hc : letter c) (h : Spelled plain letter rest) :
      Spelled plain letter (some '\\' :: some c :: rest)
  | code {a b c d : Char} {rest : List Symbol} (hcode : ∀ x ∈ [a, b, c, d], (hexValue? x).isSome)
      (h : Spelled plain letter rest) :
      Spelled plain letter
        (some '\\' :: some 'u' :: some a :: some b :: some c :: some d :: rest)

namespace Spelled
variable {plain plain' : Symbol → Prop} {letter letter' : Char → Prop} {text rest : List Symbol}

theorem imp (hplain : ∀ s, plain s → plain' s) (hletter : ∀ c, letter c → letter' c)
    (h : Spelled plain letter text) : Spelled plain' letter' text := by
  induction h with
  | nil => exact .nil
  | plain hs _ ih => exact .plain (hplain _ hs) ih
  | letter hc _ ih => exact .letter (hletter _ hc) ih
  | code hcode _ ih => exact .code hcode ih

theorem cons_iff {s : Symbol} (hs : s ≠ some '\\') :
    Spelled plain letter (s :: rest) ↔ plain s ∧ Spelled plain letter rest := by
  constructor
  · intro h
    cases h with
    | plain hs h => exact ⟨hs, h⟩
    | letter | code => exact absurd rfl hs
  · rintro ⟨hs, h⟩
    exact .plain hs h

/-- Where a backslash does not stand for itself, it begins an escape. -/
theorem escape_iff (hslash : ¬ plain (some '\\')) {c : Char} (hc : c ≠ 'u') :
    Spelled plain letter (some '\\' :: some c :: rest) ↔ letter c ∧ Spelled plain letter rest := by
  constructor
  · intro h
    cases h with
    | plain hs => exact absurd hs hslash
    | letter hc h => exact ⟨hc, h⟩
    | code => exact absurd rfl hc
  · rintro ⟨hc, h⟩
    exact .letter hc h

theorem not_code (hslash : ¬ plain (some '\\')) (hletter : ¬ letter 'u') {c : Char}
    (hc : hexValue? c = none) : ¬ Spelled plain letter (some '\\' :: some 'u' :: some c :: rest) := by
  intro h
  cases h with
  | plain hs => exact hslash hs
  | letter hu => exact hletter hu
  | code hcode =>
    have hdigit := hcode c List.mem_cons_self
    rw [hc] at hdigit
    cases hdigit

def IsEscapePart (c : Char) : Prop := c = '\\' ∨ c = 'u' ∨ (hexValue? c).isSome

/-- Escapes outlast a replacement of characters that have no part in them. -/
theorem map_iff {f : Char → Char} (hf : ∀ c, f c ≠ c → ¬ IsEscapePart c ∧ ¬ IsEscapePart (f c)) :
    Spelled plain letter (text.map (Option.map f)) ↔
      Spelled (fun s => plain (s.map f)) (fun c => letter (f c)) text := by
  have hfixed (c : Char) (h : IsEscapePart c ∨ IsEscapePart (f c)) : f c = c := by
    by_cases hsame : f c = c
    · exact hsame
    · exact (h.elim (hf c hsame).1 (hf c hsame).2).elim
  have hpart {c : Char} (hc : IsEscapePart c) {text rest : List Symbol}
      (h : text.map (Option.map f) = some c :: rest) :
      ∃ more, text = some c :: more ∧ more.map (Option.map f) = rest := by
    obtain ⟨s, more, rfl, hs, hmore⟩ := List.map_eq_cons_iff.mp h
    obtain ⟨d, rfl, rfl⟩ := Option.map_eq_some_iff.mp hs
    exact ⟨more, by rw [hfixed d (.inr hc)], hmore⟩
  have hslash : IsEscapePart '\\' := .inl rfl
  have hu : IsEscapePart 'u' := .inr (.inl rfl)
  constructor
  · intro h
    generalize hmapped : text.map (Option.map f) = mapped at h
    induction h generalizing text with
    | nil =>
      rw [List.map_eq_nil_iff.mp hmapped]
      exact .nil
    | plain hs _ ih =>
      obtain ⟨s, rest, rfl, rfl, hrest⟩ := List.map_eq_cons_iff.mp hmapped
      exact .plain hs (ih hrest)
    | letter hc _ ih =>
      obtain ⟨after, rfl, hafter⟩ := hpart hslash hmapped
      obtain ⟨s, more, rfl, hletter, hmore⟩ := List.map_eq_cons_iff.mp hafter
      obtain ⟨c, rfl, rfl⟩ := Option.map_eq_some_iff.mp hletter
      exact .letter hc (ih hmore)
    | code hcode _ ih =>
      have hdigits := hcode
      simp only [List.forall_mem_cons] at hdigits
      obtain ⟨ha, hb, hc, hd, -⟩ := hdigits
      obtain ⟨_, rfl, hmore⟩ := hpart hslash hmapped
      obtain ⟨_, rfl, hfirst⟩ := hpart hu hmore
      obtain ⟨_, rfl, hsecond⟩ := hpart (.inr (.inr ha)) hfirst
      obtain ⟨_, rfl, hthird⟩ := hpart (.inr (.inr hb)) hsecond
      obtain ⟨_, rfl, hfourth⟩ := hpart (.inr (.inr hc)) hthird
      obtain ⟨_, rfl, hrest⟩ := hpart (.inr (.inr hd)) hfourth
      exact .code hcode (ih hrest)
  · intro h
    induction h with
    | nil => exact .nil
    | plain hs _ ih => exact .plain hs ih
    | letter hc _ ih =>
      simp only [List.map_cons, Option.map_some, hfixed _ (.inl hslash)]
      exact .letter hc ih
    | code hcode _ ih =>
      have hdigits := hcode
      simp only [List.forall_mem_cons] at hdigits
      obtain ⟨ha, hb, hc, hd, -⟩ := hdigits
      have hdigit {c : Char} (h : (hexValue? c).isSome) : f c = c := hfixed c (.inl (.inr (.inr h)))
      simp only [List.map_cons, Option.map_some, hfixed _ (.inl hslash), hfixed _ (.inl hu),
        hdigit ha, hdigit hb, hdigit hc, hdigit hd]
      exact .code hcode ih

end Spelled

/-- A symbol that stands for itself in a string: a gap, or a character that is no control, no quote
and no backslash. -/
def IsPlain (s : Symbol) : Prop := ∀ c ∈ s, 0x20 ≤ c.toNat ∧ c ≠ '"' ∧ c ≠ '\\'

def IsLetter (c : Char) : Prop := (escapedChar? c).isSome

instance : DecidablePred IsLetter := fun c => inferInstanceAs (Decidable ((escapedChar? c).isSome = true))

abbrev StringBody : List Symbol → Prop := Spelled IsPlain IsLetter

variable {text rest : List Symbol}

theorem isPlain_none : IsPlain none := by
  intro c hc
  cases hc

theorem isPlain_some {c : Char} : IsPlain (some c) ↔ 0x20 ≤ c.toNat ∧ c ≠ '"' ∧ c ≠ '\\' :=
  ⟨fun h => h c rfl, fun h => by rintro _ ⟨⟩; exact h⟩

theorem hex4?_eq_some {n : Nat} (h : hex4? text = some (n, rest)) :
    ∃ a b c d, text = some a :: some b :: some c :: some d :: rest ∧
      ∀ x ∈ [a, b, c, d], (hexValue? x).isSome := by
  unfold hex4? at h
  split at h
  · next a b c d rest =>
    obtain ⟨_, ha, h⟩ := Option.bind_eq_some_iff.mp h
    obtain ⟨_, hb, h⟩ := Option.bind_eq_some_iff.mp h
    obtain ⟨_, hc, h⟩ := Option.bind_eq_some_iff.mp h
    obtain ⟨_, hd, h⟩ := Option.bind_eq_some_iff.mp h
    cases h
    exact ⟨a, b, c, d, rfl, by simp [ha, hb, hc, hd]⟩
  · cases h

theorem exists_hex4?_eq {a b c d : Char} (h : ∀ x ∈ [a, b, c, d], (hexValue? x).isSome)
    (rest : List Symbol) :
    ∃ n, hex4? (some a :: some b :: some c :: some d :: rest) = some (n, rest) := by
  simp only [List.forall_mem_cons, Option.isSome_iff_exists] at h
  obtain ⟨⟨x, hx⟩, ⟨y, hy⟩, ⟨z, hz⟩, ⟨w, hw⟩, -⟩ := h
  exact ⟨((x * 16 + y) * 16 + z) * 16 + w, by simp [hex4?, hx, hy, hz, hw]⟩

def InString (text rest : List Symbol) : Prop :=
  ∃ body, StringBody body ∧ text = body ++ some '"' :: rest

namespace InString
variable {more : List Symbol}

theorem nil (rest : List Symbol) : InString (some '"' :: rest) rest := ⟨[], .nil, rfl⟩

theorem plain {s : Symbol} (hs : IsPlain s) (h : InString text rest) : InString (s :: text) rest := by
  obtain ⟨body, hbody, rfl⟩ := h
  exact ⟨s :: body, .plain hs hbody, rfl⟩

theorem letter {c d : Char} (hc : escapedChar? c = some d) (h : InString text rest) :
    InString (some '\\' :: some c :: text) rest := by
  obtain ⟨body, hbody, rfl⟩ := h
  exact ⟨_, .letter (Option.isSome_of_eq_some hc) hbody, rfl⟩

theorem code {n : Nat} (hcode : hex4? text = some (n, more)) (h : InString more rest) :
    InString (some '\\' :: some 'u' :: text) rest := by
  obtain ⟨body, hbody, rfl⟩ := h
  obtain ⟨a, b, c, d, rfl, hdigits⟩ := hex4?_eq_some hcode
  exact ⟨_, .code hdigits hbody, rfl⟩

end InString

theorem inString_of_readString? {fuel : Nat} {taken : Option (List Char)} {value : Option String}
    (h : readString? fuel taken text = some (value, rest)) : InString text rest := by
  fun_induction readString? fuel taken text with
  | case1 | case2 | case5 | case8 | case13 | case14 | case15 => cases h
  | case3 fuel taken text ih => exact (ih h).plain isPlain_none
  | case4 =>
    cases h
    exact .nil rest
  | case6 fuel taken text n high more m after hlow hm _ hn ih => exact .code hn (.code hlow (ih h))
  | case7 fuel taken text n high more m after hlow hm _ hn ih => exact .code hn (ih h)
  | case9 fuel taken text n after hn _ _ _ ih => exact .code hn (ih h)
  | case10 fuel taken text n after hn _ _ _ ih => exact .code hn (ih h)
  | case11 fuel taken text n after hn _ _ _ ih => exact .code hn (ih h)
  | case12 fuel taken e text _ d hd _ ih => exact (ih h).letter hd
  | case16 fuel taken c text hquote hslash hlow ih =>
    exact (ih h).plain (isPlain_some.mpr ⟨Nat.le_of_not_lt hlow, hquote, hslash⟩)

section Steps
variable {fuel : Nat} {taken : Option (List Char)}

theorem readString?_plain {s : Symbol} (hs : IsPlain s) :
    readString? (fuel + 1) taken (s :: text) =
      readString? fuel (s.bind fun c => taken.map (c :: ·)) text := by
  cases s with
  | none => rfl
  | some c =>
    obtain ⟨hlow, hquote, hslash⟩ := isPlain_some.mp hs
    conv => lhs; unfold readString?
    simp only [if_neg hquote, if_neg hslash, if_neg (Nat.not_lt.mpr hlow), Option.bind_some]

theorem readString?_letter {c d : Char} (hc : escapedChar? c = some d) :
    readString? (fuel + 1) taken (some '\\' :: some c :: text) =
      readString? fuel (taken.map (d :: ·)) text := by
  have hu : c ≠ 'u' := by
    rintro rfl
    cases hc
  conv => lhs; unfold readString?
  simp [hc]

end Steps

/-- A code at the start of what stands in a string is complete. -/
theorem StringBody.exists_hex4?_eq {body more : List Symbol} (h : StringBody body)
    (heq : body ++ some '"' :: rest = some '\\' :: some 'u' :: more) :
    ∃ n after, StringBody after ∧ after.length < body.length ∧
      hex4? more = some (n, after ++ some '"' :: rest) := by
  cases h with
  | nil => cases heq
  | plain hs h =>
    obtain ⟨rfl, -⟩ := List.cons.inj heq
    exact absurd rfl (isPlain_some.mp hs).2.2
  | letter hc h =>
    obtain ⟨hu, -⟩ := List.cons.inj (List.cons.inj heq).2
    obtain rfl := Option.some.inj hu
    cases hc
  | @code a b c d after hcode h =>
    obtain ⟨n, hn⟩ := Json.exists_hex4?_eq hcode (after ++ some '"' :: rest)
    obtain ⟨-, rfl⟩ := List.cons.inj (List.cons.inj heq).2
    exact ⟨n, after, h, by simp only [List.length_cons]; omega, hn⟩

/-- Two codes in a row are read as one character if they are two halves of it, so the induction is
on the steps that are left. -/
theorem exists_readString?_eq {body : List Symbol} (h : StringBody body) (rest : List Symbol)
    {fuel : Nat} (hfuel : body.length < fuel) (taken : Option (List Char)) :
    ∃ value, readString? fuel taken (body ++ some '"' :: rest) = some (value, rest) := by
  induction fuel generalizing body taken with
  | zero => omega
  | succ fuel ih =>
    cases h with
    | nil => exact ⟨_, rfl⟩
    | @plain s body hs h =>
      rw [List.cons_append, readString?_plain hs]
      exact ih h (by simpa using hfuel) _
    | @letter c body hc h =>
      obtain ⟨d, hd⟩ := Option.isSome_iff_exists.mp hc
      rw [List.cons_append, List.cons_append, readString?_letter hd]
      exact ih h (by simp only [List.length_cons] at hfuel; omega) _
    | @code a b c d body hcode h =>
      have hshort : body.length < fuel := by
        simp only [List.length_cons] at hfuel
        omega
      obtain ⟨n, hn⟩ := exists_hex4?_eq hcode (body ++ some '"' :: rest)
      have hnext := ih h hshort
      unfold readString?
      simp only [List.cons_append, hn, if_false, if_true, Char.reduceEq]
      split
      · split
        · next more hmore =>
          obtain ⟨m, after, hafter, hlength, hm⟩ := StringBody.exists_hex4?_eq h hmore
          rw [hm]
          dsimp only
          split
          · exact ih hafter (by omega) _
          · exact hmore ▸ hnext none
        · exact hnext none
      · split
        · exact hnext none
        · exact hnext _

end ItemStore.Json
