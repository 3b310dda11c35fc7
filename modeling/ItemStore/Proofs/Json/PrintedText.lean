import ItemStore.Json.Record
import ItemStore.Proofs.Json.StringLiteral
import ItemStore.Proofs.Json.TextStart
import ItemStore.Proofs.Number.ExponentText
import ItemStore.Proofs.Text.EncodedSymbols

/-! # Printed texts are read back

The compact text of a value whose numbers are in range is a JSON text, and what is written in it is
the value and nothing else.
-/
namespace ItemStore

namespace Json
open Text (Symbol symbolsOf)
open Number (isDigit natText ExponentNumeral PlainNumeral Proper)

/-! ### Strings -/

theorem hexValue?_hexDigit {n : Nat} (h : n < 16) : hexValue? (hexDigit n) = some n := by
  revert n
  decide

/-- A character is written as a letter behind a backslash, as a code, or as itself. -/
theorem escapeChar_cases (c : Char) :
    (∃ letter, escapeChar c = ['\\', letter] ∧ escapedChar? letter = some c) ∨
    (c.toNat < 0x20 ∧ escapeChar c =
      ['\\', 'u', '0', '0', hexDigit (c.toNat / 16), hexDigit (c.toNat % 16)]) ∨
    (IsPlain (some c) ∧ escapeChar c = [c]) := by
  unfold escapeChar
  split
  · exact .inl ⟨'"', rfl, rfl⟩
  · exact .inl ⟨'\\', rfl, rfl⟩
  · exact .inl ⟨'b', rfl, rfl⟩
  · exact .inl ⟨'f', rfl, rfl⟩
  · exact .inl ⟨'n', rfl, rfl⟩
  · exact .inl ⟨'r', rfl, rfl⟩
  · exact .inl ⟨'t', rfl, rfl⟩
  · next hquote hslash _ _ _ _ _ =>
    split
    · next hcontrol => exact .inr (.inl ⟨hcontrol, rfl⟩)
    · next hcontrol =>
      exact .inr (.inr ⟨isPlain_some.mpr ⟨Nat.le_of_not_lt hcontrol, hquote, hslash⟩, rfl⟩)

theorem hex4?_control {c : Char} (h : c.toNat < 0x20) (rest : List Symbol) :
    hex4? (some '0' :: some '0' :: some (hexDigit (c.toNat / 16)) ::
      some (hexDigit (c.toNat % 16)) :: rest) = some (c.toNat, rest) := by
  have hfirst : hexValue? (hexDigit (c.toNat / 16)) = some (c.toNat / 16) :=
    hexValue?_hexDigit (by omega)
  have hsecond : hexValue? (hexDigit (c.toNat % 16)) = some (c.toNat % 16) :=
    hexValue?_hexDigit (by omega)
  have hzero : hexValue? '0' = some 0 := rfl
  have hjoined : ((0 * 16 + 0) * 16 + c.toNat / 16) * 16 + c.toNat % 16 = c.toNat := by omega
  simp only [hex4?, hzero, hfirst, hsecond, Option.bind_eq_bind, Option.bind_some, hjoined]

theorem readString?_escapeChar (c : Char) (fuel : Nat) (taken : Option (List Char))
    (rest : List Symbol) :
    readString? (fuel + 1) taken ((escapeChar c).map some ++ rest) =
      readString? fuel (taken.map (c :: ·)) rest := by
  rcases escapeChar_cases c with ⟨letter, htext, hletter⟩ | ⟨hcontrol, htext⟩ | ⟨hplain, htext⟩
  · rw [htext]
    exact readString?_letter hletter
  · have hhigh : isHighHalf c.toNat = false := by
      simp only [isHighHalf, Bool.and_eq_false_iff, decide_eq_false_iff_not]
      omega
    have hlow : isLowHalf c.toNat = false := by
      simp only [isLowHalf, Bool.and_eq_false_iff, decide_eq_false_iff_not]
      omega
    rw [htext]
    conv => lhs; unfold readString?
    simp only [List.map_cons, List.map_nil, List.cons_append, List.nil_append, hex4?_control hcontrol,
      hhigh, hlow, Char.ofNat_toNat, Char.reduceEq, Bool.false_eq_true, if_false, if_true]
  · rw [htext]
    exact readString?_plain hplain

theorem readString?_escaped (cs : List Char) {fuel : Nat} (hfuel : cs.length < fuel)
    (taken : List Char) (rest : List Symbol) :
    readString? fuel (some taken) ((cs.flatMap escapeChar).map some ++ some '"' :: rest) =
      some (some (String.ofList (taken.reverse ++ cs)), rest) := by
  induction cs generalizing fuel taken with
  | nil =>
    obtain ⟨fuel, rfl⟩ := Nat.exists_eq_succ_of_ne_zero (Nat.ne_of_gt hfuel)
    rw [List.append_nil]
    rfl
  | cons c cs ih =>
    obtain ⟨fuel, rfl⟩ := Nat.exists_eq_succ_of_ne_zero (Nat.ne_zero_of_lt hfuel)
    rw [List.flatMap_cons, List.map_append, List.append_assoc, readString?_escapeChar,
      Option.map_some, ih (Nat.lt_of_succ_lt_succ hfuel), List.reverse_cons, List.append_assoc,
      List.singleton_append]

theorem length_le_flatMap_escapeChar (cs : List Char) :
    cs.length ≤ (cs.flatMap escapeChar).length := by
  induction cs with
  | nil => exact Nat.le_refl 0
  | cons c cs ih =>
    have hone : 1 ≤ (escapeChar c).length := by
      rcases escapeChar_cases c with ⟨_, htext, -⟩ | ⟨-, htext⟩ | ⟨-, htext⟩ <;> simp [htext]
    rw [List.flatMap_cons, List.length_append, List.length_cons]
    omega

theorem exists_stringText (s : String) (rest : List Symbol) :
    ∃ text, (stringText s).map some ++ rest = some '"' :: text ∧
      readString? (text.length + 1) (some []) text = some (some s, rest) := by
  refine ⟨(s.toList.flatMap escapeChar).map some ++ some '"' :: rest, by simp [stringText], ?_⟩
  have hlength := length_le_flatMap_escapeChar s.toList
  rw [readString?_escaped _ (by simp only [List.length_append, List.length_map]; omega),
    List.reverse_nil, List.nil_append, String.ofList_toList]

/-! ### Numbers -/

/-- What may stand behind a number: nothing that would be taken as a part of it. -/
def EndsNumeral (rest : List Symbol) : Prop :=
  ∀ c, rest.head? = some (some c) → isDigit c = false ∧ c ≠ '.' ∧ c ≠ 'e' ∧ c ≠ 'E'

variable {digits : List Char} {rest : List Symbol}

theorem takeDigits_append (hdigits : ∀ c ∈ digits, isDigit c = true)
    (hrest : ∀ c, rest.head? = some (some c) → isDigit c = false) :
    takeDigits (digits.map some ++ rest) = (digits, rest) := by
  induction digits with
  | nil =>
    rcases rest with _ | ⟨_ | c, rest⟩
    · rfl
    · rfl
    · simp [takeDigits, hrest c rfl]
  | cons c digits ih =>
    obtain ⟨hc, hdigits⟩ := List.forall_mem_cons.mp hdigits
    simp [takeDigits, hc, ih hdigits]

theorem readExponent?_append (exponent : Option Int) (hrest : EndsNumeral rest) :
    readExponent? ((Number.exponentText exponent).map some ++ rest) = some (exponent, rest) := by
  cases exponent with
  | none =>
    rcases rest with _ | ⟨_ | c, rest⟩
    · rfl
    · rfl
    · obtain ⟨-, -, hlower, hupper⟩ := hrest c rfl
      simp [Number.exponentText, readExponent?, hlower, hupper]
  | some power =>
    have htake : takeDigits ((natText power.natAbs).map some ++ rest) = (natText power.natAbs, rest) :=
      takeDigits_append (fun _ => Number.isDigit_of_mem_natText) fun c hc => (hrest c hc).1
    have hne : (natText power.natAbs).isEmpty = false :=
      List.isEmpty_eq_false_iff.mpr (Number.natText_ne_nil _)
    rw [Number.exponentText_some]
    by_cases hsign : power < 0
    · have hpower : -(power.natAbs : Int) = power := by omega
      generalize power.natAbs = n at *
      simp [readExponent?, hsign, htake, hne, hpower]
    · have hpower : (power.natAbs : Int) = power := by omega
      generalize power.natAbs = n at *
      simp [readExponent?, hsign, htake, hne, hpower]

theorem not_leadingZero (hproper : Proper digits) :
    (decide (digits.length > 1) && digits.head? == some '0') = false := by
  rcases hproper with h | h
  · simp [Nat.not_lt.mpr h]
  · simp [h]

/-- A number is read part by part: a minus or none, digits, a point with digits or none, and an
exponent or none. -/
theorem readNumeral?_append {negative : Bool} {whole fraction : List Char} {exponent : Option Int}
    {text afterWhole afterFraction : List Symbol} (hminus : ∀ more, text ≠ some '-' :: more)
    (hwhole : takeDigits text = (whole, afterWhole)) (hne : whole.isEmpty = false)
    (hproper : Proper whole)
    (hfraction :
      (fraction = [] ∧ afterFraction = afterWhole ∧ ∀ more, afterWhole ≠ some '.' :: more) ∨
      (fraction.isEmpty = false ∧ ∃ more, afterWhole = some '.' :: more ∧
        takeDigits more = (fraction, afterFraction)))
    (hexponent : readExponent? afterFraction = some (exponent, rest)) :
    readNumeral? ((Number.Binary64.signText negative).map some ++ text) =
      some (.number (numeralValue? negative whole fraction exponent), rest) := by
  unfold readNumeral?
  split
  next sign unsigned hsplit =>
  have hsign : (sign, unsigned) = (negative, text) := by
    cases negative with
    | true =>
      cases hsplit
      rfl
    | false =>
      split at hsplit
      · next h => exact absurd h (hminus _)
      · cases hsplit
        rfl
  cases hsign
  simp only [hwhole, hne, not_leadingZero hproper, Bool.or_self, Bool.false_eq_true, if_false]
  rcases hfraction with ⟨rfl, rfl, hpoint⟩ | ⟨hdigits, more, rfl, hfraction⟩
  · split
    · exact absurd rfl (hpoint _)
    · simp [hexponent]
  · simp [hfraction, hdigits, hexponent]

theorem readNumeral?_fullText (p : ExponentNumeral) (hproper : Proper p.whole)
    (hrest : EndsNumeral rest) :
    readNumeral? (p.fullText.map some ++ rest) =
      some (.number (numeralValue? p.negative p.whole p.fraction p.exponent), rest) := by
  have htext (fraction : List Char) (h : p.body = p.whole ++ fraction) :
      p.fullText.map some ++ rest = (Number.Binary64.signText p.negative).map some ++
        (p.whole.map some ++ (fraction.map some ++
          ((Number.exponentText p.exponent).map some ++ rest))) := by
    simp only [ExponentNumeral.fullText, PlainNumeral.text, h, List.map_append, List.append_assoc]
  have hminus (tail more : List Symbol) : p.whole.map some ++ tail ≠ some '-' :: more := by
    obtain ⟨c, digits, hcons⟩ := List.exists_cons_of_ne_nil p.whole_ne_nil
    rw [hcons]
    rintro ⟨⟩
    cases p.isDigit_whole '-' (by simp [hcons])
  have hnonempty : p.whole.isEmpty = false := List.isEmpty_eq_false_iff.mpr p.whole_ne_nil
  have hexponent := readExponent?_append p.exponent hrest
  -- What stands behind the digits is no digit and no point.
  have hend : ∀ c, ((Number.exponentText p.exponent).map some ++ rest).head? = some (some c) →
      isDigit c = false ∧ c ≠ '.' := by
    intro c hc
    cases hpower : p.exponent with
    | none =>
      rw [hpower] at hc
      exact ⟨(hrest c hc).1, (hrest c hc).2.1⟩
    | some power =>
      rw [hpower] at hc
      cases hc
      decide
  by_cases hfraction : p.fraction = []
  · have hbody : p.body = p.whole ++ [] := by rw [PlainNumeral.body, if_pos hfraction]
    rw [htext [] hbody, hfraction]
    refine readNumeral?_append (hminus _)
      (takeDigits_append p.isDigit_whole fun c hc => (hend c hc).1) hnonempty hproper
      (.inl ⟨rfl, rfl, fun more hmore => ?_⟩) hexponent
    rw [List.map_nil, List.nil_append] at hmore
    exact (hend '.' (by rw [hmore]; rfl)).2 rfl
  · have hbody : p.body = p.whole ++ '.' :: p.fraction := by rw [PlainNumeral.body, if_neg hfraction]
    rw [htext _ hbody]
    refine readNumeral?_append (hminus _) (takeDigits_append p.isDigit_whole ?_) hnonempty hproper
      (.inr ⟨List.isEmpty_eq_false_iff.mpr hfraction, _, rfl,
        takeDigits_append p.isDigit_fraction fun c hc => (hend c hc).1⟩) hexponent
    rintro _ ⟨⟩
    rfl

theorem numeralValue?_int {i : Int} (h : Number.int64Min ≤ i ∧ i ≤ Number.nat64Max) :
    numeralValue? (decide (i < 0)) (natText i.natAbs) [] none = some (.int i) := by
  have hsigned : (if decide (i < 0) = true then -(i.natAbs : Int) else i.natAbs) = i :=
    Number.Binary64.signed_natAbs i
  have hzero : (decide (i < 0) && i.natAbs == 0) = false := by
    rw [Bool.and_eq_false_iff, decide_eq_false_iff_not, beq_eq_false_iff_ne]
    omega
  simp only [numeralValue?, Number.natOfDigits_natText, hsigned, hzero]
  simp [h.1, h.2]

theorem numeralValue?_float {p : ExponentNumeral} (hfloat : p.IsFloat)
    (hfinite : p.value.isFinite = true) :
    numeralValue? p.negative p.whole p.fraction p.exponent = some (.float p.value) := by
  have hmark : (p.fraction.isEmpty && p.exponent.isNone) = false := by
    rcases hfloat with h | h
    · simp [h]
    · simp [Option.isSome_iff_ne_none.mpr h]
  have hvalue : Number.Binary64.ofDecimal p.negative (Number.natOfDigits (p.whole ++ p.fraction))
      (p.exponent.getD 0 - p.fraction.length) = p.value := rfl
  simp only [numeralValue?, hmark, hvalue, hfinite, Bool.false_and, Bool.false_eq_true, if_false,
    if_true]

theorem readNumeral?_text {n : JsonNumber} (h : n.InRange) (hrest : EndsNumeral rest) :
    readNumeral? (n.text.map some ++ rest) = some (.number (some n), rest) := by
  cases n with
  | int i =>
    have hread := readNumeral?_fullText ⟨.ofInt i, none⟩ (Number.proper_natText _) hrest
    have htext : ExponentNumeral.fullText ⟨.ofInt i, none⟩ = Number.intText i := by
      rw [ExponentNumeral.fullText, PlainNumeral.text_ofInt]
      exact List.append_nil _
    rw [htext] at hread
    rw [JsonNumber.text, hread]
    exact congrArg (fun value => some (Written.number value, rest)) (numeralValue?_int h)
  | float x =>
    obtain ⟨p, htext, hfloat, hproper, rfl⟩ := Number.Binary64.exists_numeral_of_isFinite h
    rw [JsonNumber.text, ← htext, readNumeral?_fullText p hproper hrest, numeralValue?_float hfloat h]

/-! ### Values -/

theorem skipSpaces_cons {c : Char} (h : isSpace c = false) (rest : List Symbol) :
    skipSpaces (some c :: rest) = some c :: rest := by
  simp [skipSpaces, h]

theorem Begins.not_space {c : Char} (h : Begins c) : isSpace c = false ∧ c ≠ ']' := by
  rcases h with h | h
  · simp only [List.mem_cons, List.not_mem_nil, or_false] at h
    rcases h with rfl | rfl | rfl | rfl | rfl | rfl | rfl <;> decide
  · constructor
    · simp only [isSpace, Bool.or_eq_false_iff, beq_eq_false_iff_ne]
      refine ⟨⟨⟨?_, ?_⟩, ?_⟩, ?_⟩ <;>
        · rintro rfl
          cases h
    · rintro rfl
      cases h

theorem endsNumeral_cons {c : Char} (h : c ∈ [',', ']', '\x7d']) (rest : List Symbol) :
    EndsNumeral (some c :: rest) := by
  rintro _ ⟨⟩
  simp only [List.mem_cons, List.not_mem_nil, or_false] at h
  rcases h with rfl | rfl | rfl <;> decide

theorem readValue?_numeral {c : Char} (h : c = '-' ∨ isDigit c = true) (fuel : Nat)
    (rest : List Symbol) :
    readValue? (fuel + 1) (some c :: rest) = readNumeral? (some c :: rest) := by
  have hne (d : Char) (hd : d ≠ '-' ∧ isDigit d = false) : c ≠ d := by
    rintro rfl
    rcases h with rfl | h
    · exact hd.1 rfl
    · rw [hd.2] at h
      cases h
  have hspace : isSpace c = false := by
    simp only [isSpace, Bool.or_eq_false_iff, beq_eq_false_iff_ne]
    exact ⟨⟨⟨hne _ (by decide), hne _ (by decide)⟩, hne _ (by decide)⟩, hne _ (by decide)⟩
  rw [readValue?, skipSpaces_cons hspace]
  split
  · next heq =>
    cases heq
    exact absurd rfl (hne '\x7b' (by decide))
  · next heq =>
    cases heq
    exact absurd rfl (hne '[' (by decide))
  · next heq =>
    cases heq
    exact absurd rfl (hne '"' (by decide))
  · next heq =>
    cases heq
    exact absurd rfl (hne 'n' (by decide))
  · next heq =>
    cases heq
    exact absurd rfl (hne 't' (by decide))
  · next heq =>
    cases heq
    exact absurd rfl (hne 'f' (by decide))
  · rfl

theorem exists_itemsText (items : List Json) :
    ∃ c rest, itemsText items = c :: rest ∧ c ∈ [',', ']', '\x7d'] := by
  cases items with
  | nil => exact ⟨']', [], rfl, by decide⟩
  | cons v items => exact ⟨',', _, rfl, by decide⟩

theorem exists_fieldsText (fields : List (String × Json)) :
    ∃ c rest, fieldsText fields = c :: rest ∧ c ∈ [',', ']', '\x7d'] := by
  rcases fields with _ | ⟨⟨name, v⟩, fields⟩
  · exact ⟨'\x7d', [], rfl, by decide⟩
  · exact ⟨',', _, rfl, by decide⟩

theorem skipSpaces_text {json : Json} (h : json.InRange) (rest : List Symbol) :
    skipSpaces (json.text.map some ++ rest) = json.text.map some ++ rest ∧
      ∀ more, json.text.map some ++ rest ≠ some ']' :: more := by
  obtain ⟨c, tail, htext, hc⟩ := exists_text_eq_cons h
  rw [htext, List.map_cons, List.cons_append]
  refine ⟨skipSpaces_cons hc.not_space.1 _, ?_⟩
  rintro _ ⟨⟩
  exact hc.not_space.2 rfl

/-- Behind an opening bracket stand items, unless it is closed at once. -/
theorem readValue?_bracket {fuel : Nat} {text : List Symbol} (hspace : skipSpaces text = text)
    (hbracket : ∀ more, text ≠ some ']' :: more) :
    readValue? (fuel + 1) (some '[' :: text) =
      (readItems? fuel text).map fun read => (.array read.1, read.2) := by
  simp only [readValue?, skipSpaces_cons (c := '[') rfl, hspace]

theorem readValue?_brace {fuel : Nat} (text : List Symbol) :
    readValue? (fuel + 1) (some '\x7b' :: some '"' :: text) =
      (readMembers? fuel (some '"' :: text)).map fun read => (.object read.1, read.2) := by
  simp only [readValue?, skipSpaces_cons (c := '\x7b') rfl, skipSpaces_cons (c := '"') rfl]
  rfl

mutual

/-- The text of a value is read as that value, whatever stands behind it, in twice as many steps as
the text has characters: one step reads a value and one begins an item or a member. -/
theorem readValue?_text {json : Json} (h : json.InRange) {fuel : Nat}
    (hfuel : 2 * json.text.length ≤ fuel) {rest : List Symbol} (hrest : EndsNumeral rest) :
    readValue? fuel (json.text.map some ++ rest) = some (json.toWritten, rest) := by
  obtain ⟨c, tail, hcons, -⟩ := exists_text_eq_cons h
  obtain ⟨fuel, rfl⟩ : ∃ k, fuel = k + 1 := by
    rw [hcons, List.length_cons] at hfuel
    exact ⟨fuel - 1, by omega⟩
  match json, h with
  | .null, _ => rfl
  | .bool true, _ => rfl
  | .bool false, _ => rfl
  | .number n, .number hn =>
    obtain ⟨c, tail, htext, hc⟩ := JsonNumber.beginsNumeral_text hn
    have hread := readNumeral?_text hn hrest
    rw [htext] at hread
    rw [text, htext, List.map_cons, List.cons_append, readValue?_numeral hc]
    exact hread
  | .string s, _ =>
    obtain ⟨text, htext, hread⟩ := exists_stringText s rest
    rw [Json.text, htext, readValue?, skipSpaces_cons rfl]
    simp [hread, toWritten]
  | .array [], _ => rfl
  | .object [], _ => rfl
  | .array (v :: items), .array hitems =>
    obtain ⟨hv, hitems⟩ := List.forall_mem_cons.mp hitems
    rw [text, List.length_cons] at hfuel
    have hitemsfuel : 2 * (v.text ++ itemsText items).length ≤ fuel := by omega
    have hread := readItems?_text hv hitems hitemsfuel rest
    obtain ⟨hspace, hbracket⟩ := skipSpaces_text hv ((itemsText items).map some ++ rest)
    rw [← List.append_assoc, ← List.map_append] at hspace hbracket
    rw [text, List.map_cons, List.cons_append, readValue?_bracket hspace hbracket, hread]
    rfl
  | .object ((name, v) :: fields), .object hfields =>
    rw [text, List.length_cons] at hfuel
    have hv : v.InRange := hfields name v List.mem_cons_self
    have hmembersfuel :
        2 * (stringText name ++ ':' :: (v.text ++ fieldsText fields)).length ≤ fuel := by omega
    have hread := readMembers?_text name hv (fun name v h => hfields name v (List.mem_cons_of_mem _ h))
      hmembersfuel rest
    obtain ⟨after, hname, -⟩ :=
      exists_stringText name ((':' :: (v.text ++ fieldsText fields)).map some ++ rest)
    rw [← List.append_assoc, ← List.map_append] at hname
    rw [hname] at hread
    rw [text, List.map_cons, List.cons_append, hname, readValue?_brace, hread]
    rfl
termination_by fuel

theorem readItems?_text {v : Json} (hv : v.InRange) {items : List Json}
    (hitems : ∀ item ∈ items, item.InRange) {fuel : Nat}
    (hfuel : 2 * (v.text ++ itemsText items).length ≤ fuel) (rest : List Symbol) :
    readItems? fuel ((v.text ++ itemsText items).map some ++ rest) =
      some (toWrittenItems (v :: items), rest) := by
  obtain ⟨c, tail, hcons, hc⟩ := exists_itemsText items
  rw [List.length_append, hcons, List.length_cons] at hfuel
  obtain ⟨fuel, rfl⟩ : ∃ k, fuel = k + 1 := ⟨fuel - 1, by omega⟩
  have hvalue : readValue? fuel (v.text.map some ++ ((itemsText items).map some ++ rest)) =
      some (v.toWritten, (itemsText items).map some ++ rest) := by
    refine readValue?_text hv (by omega) ?_
    rw [hcons]
    exact endsNumeral_cons hc _
  rw [List.map_append, List.append_assoc, readItems?, hvalue]
  match items, hitems with
  | [], _ => rfl
  | w :: items, hitems =>
    obtain ⟨hw, hitems⟩ := List.forall_mem_cons.mp hitems
    have hlength := congrArg List.length hcons
    rw [itemsText, List.length_cons, List.length_cons] at hlength
    have hitemsfuel : 2 * (w.text ++ itemsText items).length ≤ fuel := by omega
    have hread := readItems?_text hw hitems hitemsfuel rest
    simp only [itemsText, List.map_cons, List.cons_append, skipSpaces_cons (c := ',') rfl, hread,
      toWrittenItems, Option.bind_eq_bind, Option.bind_some]
termination_by fuel

theorem readMembers?_text (name : String) {v : Json} (hv : v.InRange) {fields : List (String × Json)}
    (hfields : ∀ name v, (name, v) ∈ fields → v.InRange) {fuel : Nat}
    (hfuel : 2 * (stringText name ++ ':' :: (v.text ++ fieldsText fields)).length ≤ fuel)
    (rest : List Symbol) :
    readMembers? fuel ((stringText name ++ ':' :: (v.text ++ fieldsText fields)).map some ++ rest) =
      some (toWrittenMembers ((name, v) :: fields), rest) := by
  obtain ⟨c, tail, hcons, hc⟩ := exists_fieldsText fields
  rw [List.length_append, List.length_cons, List.length_append, hcons, List.length_cons] at hfuel
  obtain ⟨fuel, rfl⟩ : ∃ k, fuel = k + 1 := ⟨fuel - 1, by omega⟩
  have hvalue : readValue? fuel (v.text.map some ++ ((fieldsText fields).map some ++ rest)) =
      some (v.toWritten, (fieldsText fields).map some ++ rest) := by
    refine readValue?_text hv (by omega) ?_
    rw [hcons]
    exact endsNumeral_cons hc _
  obtain ⟨after, hname, hread⟩ :=
    exists_stringText name (some ':' :: (v.text.map some ++ ((fieldsText fields).map some ++ rest)))
  rw [List.map_append, List.append_assoc, List.map_cons, List.cons_append, List.map_append,
    List.append_assoc, hname, readMembers?, skipSpaces_cons rfl]
  simp only [hread, Option.bind_eq_bind, Option.bind_some, skipSpaces_cons (c := ':') rfl, hvalue]
  match fields, hfields with
  | [], _ => rfl
  | (other, w) :: fields, hfields =>
    have hw : w.InRange := hfields other w List.mem_cons_self
    have hlength := congrArg List.length hcons
    rw [fieldsText, List.length_cons, List.length_cons] at hlength
    have hmembersfuel :
        2 * (stringText other ++ ':' :: (w.text ++ fieldsText fields)).length ≤ fuel := by omega
    have hread := readMembers?_text other hw
      (fun name v h => hfields name v (List.mem_cons_of_mem _ h)) hmembersfuel rest
    simp only [fieldsText, List.map_cons, List.cons_append, skipSpaces_cons (c := ',') rfl, hread,
      toWrittenMembers, Option.bind_some]
termination_by fuel

end

theorem read?_render {json : Json} (h : json.InRange) :
    Written.read? (symbolsOf json.render) = some json.toWritten := by
  have hnothing : EndsNumeral [] := by rintro c ⟨⟩
  have hread := readValue?_text h (Nat.le_add_right _ 2) hnothing
  rw [List.append_nil] at hread
  rw [render, symbolsOf, String.toList_ofList, Written.read?, List.length_map, hread]
  rfl

theorem read?_bytes_render {json : Json} (h : json.InRange) :
    Written.read? (Text.symbols (Text.bytes json.render)) = some json.toWritten := by
  rw [Text.symbols_bytes, read?_render h]

end Json

end ItemStore
