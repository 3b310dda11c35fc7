import ItemStore.Proofs.Query.QuoteBoundary

/-! # Where a key is compared

The first comparison of the partition key decides whether a statement reads a single partition. A
comparison begins where the key stands, in double quotes or bare, and a bare key that begins and ends
as a word has to be a whole word. So a part of a longer word is never taken for the key.
-/
namespace ItemStore

namespace Text

/-- Two texts have the same letters, letter case aside. -/
def SameLetters (a b : List Char) : Prop := a.map foldCase = b.map foldCase

instance (a b : List Char) : Decidable (SameLetters a b) := inferInstanceAs (Decidable (_ = _))

theorem sameLetters_cons {a b : List Char} {c d : Char} :
    SameLetters (c :: a) (d :: b) ↔ foldCase c = foldCase d ∧ SameLetters a b := by
  simp [SameLetters]

theorem SameLetters.refl (a : List Char) : SameLetters a a := rfl

theorem SameLetters.length_eq {a b : List Char} (h : SameLetters a b) : a.length = b.length := by
  simpa using congrArg List.length h

/-- Among characters of ASCII the letter case is that of ASCII. -/
theorem SameLetters.toLower_eq {a b : List Char} (ha : ∀ c ∈ a, c.toNat < 0x80)
    (hb : ∀ c ∈ b, c.toNat < 0x80) (h : SameLetters a b) :
    a.map Char.toLower = b.map Char.toLower := by
  have hfold {text : List Char} (htext : ∀ c ∈ text, c.toNat < 0x80) :
      text.map foldCase = text.map Char.toLower :=
    List.map_congr_left fun c hc => foldCase_of_ascii (htext c hc)
  rwa [SameLetters, hfold ha, hfold hb] at h

theorem dropStart?_eq_some_iff {start text rest : List Char} :
    dropStart? start text = some rest ↔ text = start ++ rest :=
  ⟨eq_append_of_dropStart?, fun h => h ▸ dropStart?_append start rest⟩

end Text

namespace Statement
open Text (SameLetters dropStart?)

section Readers
variable {key text rest : List Char} {before : Option Char} {x : Comparison}

theorem dropKey?_eq_some_iff :
    dropKey? key text = some rest ↔ ∃ found, SameLetters key found ∧ text = found ++ rest := by
  induction key generalizing text with
  | nil => simp [dropKey?, SameLetters]
  | cons k key ih =>
    cases text with
    | nil => simp [dropKey?, SameLetters]
    | cons c text =>
      simp only [dropKey?, Option.ite_none_right_eq_some, ih, Text.sameLetter, beq_iff_eq]
      constructor
      · rintro ⟨hc, found, hfound, rfl⟩
        exact ⟨c :: found, Text.sameLetters_cons.mpr ⟨hc, hfound⟩, rfl⟩
      · rintro ⟨found, hfound, heq⟩
        cases found with
        | nil => simp [SameLetters] at hfound
        | cons d found =>
          obtain ⟨rfl, rfl⟩ := List.cons.inj heq
          obtain ⟨hc, hfound⟩ := Text.sameLetters_cons.mp hfound
          exact ⟨hc, found, hfound, rfl⟩

theorem quotedComparison?_eq_some_iff :
    quotedComparison? key text = some x ↔ ∃ found rest, text = '"' :: (found ++ '"' :: rest) ∧
      SameLetters key found ∧ comparison? rest = some x := by
  simp only [quotedComparison?, Option.bind_eq_bind, Option.bind_eq_some_iff,
    Text.dropStart?_eq_some_iff, dropKey?_eq_some_iff]
  constructor
  · rintro ⟨_, rfl, _, ⟨found, hfound, rfl⟩, rest, rfl, hrest⟩
    exact ⟨found, rest, rfl, hfound, hrest⟩
  · rintro ⟨found, rest, rfl, hfound, hrest⟩
    exact ⟨_, rfl, _, ⟨found, hfound, rfl⟩, rest, rfl, hrest⟩

/-- The ends of the key that are of a word are ends of a word in the text. -/
theorem bareComparison?_eq_some_iff :
    bareComparison? key before text = some x ↔ ∃ found rest, text = found ++ rest ∧
      SameLetters key found ∧
      (bindsWord key.head? = true → isBoundary before found.head? = true) ∧
      (bindsWord key.getLast? = true → isBoundary found.getLast? rest.head? = true) ∧
      comparison? rest = some x := by
  have hhead {found rest : List Char} (hfound : SameLetters key found)
      (h : bindsWord key.head? = true) : (found ++ rest).head? = found.head? := by
    have hkey : key ≠ [] := by
      rintro rfl
      cases h
    have hlength : found ≠ [] := by
      rintro rfl
      exact hkey (List.length_eq_zero_iff.mp hfound.length_eq)
    exact List.head?_append_of_ne_nil found hlength
  simp only [bareComparison?, Option.bind_eq_bind, Option.bind_eq_some_iff, dropKey?_eq_some_iff]
  constructor
  · rintro ⟨rest, ⟨found, hfound, rfl⟩, h⟩
    rw [hfound.length_eq, List.take_left] at h
    refine ⟨found, rest, rfl, hfound, ?_⟩
    by_cases hfirst : bindsWord key.head? = true
    · rw [hhead hfound hfirst] at h
      simpa [hfirst] using h
    · simpa [hfirst] using h
  · rintro ⟨found, rest, rfl, hfound, hfirst, hlast, hrest⟩
    refine ⟨rest, ⟨found, hfound, rfl⟩, ?_⟩
    rw [hfound.length_eq, List.take_left]
    by_cases hstart : bindsWord key.head? = true
    · rw [hhead hfound hstart]
      simp +contextual [hfirst, hlast, hrest]
    · simp +contextual [hstart, hlast, hrest]

end Readers

/-! ### The search -/

def comparisonAt? (key : List Char) (before : Option Char) (text : List Char) : Option Comparison :=
  (quotedComparison? key text).or (bareComparison? key before text)

section Search
variable {key part rest text : List Char} {before : Option Char} {x : Comparison}

theorem firstComparison?_cons (c : Char) :
    firstComparison? key before (c :: text) =
      (comparisonAt? key before (c :: text)).or (firstComparison? key (some c) text) := rfl

/-- What precedes a place is the last character passed over, if there is one. -/
theorem getLast?_cons_or (c : Char) :
    (c :: part).getLast?.or before = part.getLast?.or (some c) := by
  rw [List.getLast?_cons]
  cases part.getLast? <;> rfl

theorem exists_of_firstComparison? (h : firstComparison? key before text = some x) :
    ∃ earlier later, text = earlier ++ later ∧
      comparisonAt? key (earlier.getLast?.or before) later = some x := by
  induction text generalizing before with
  | nil => exact ⟨[], [], rfl, h⟩
  | cons c text ih =>
    rw [firstComparison?_cons, Option.or_eq_some_iff] at h
    rcases h with hhere | ⟨-, hlater⟩
    · exact ⟨[], c :: text, rfl, hhere⟩
    · obtain ⟨earlier, later, rfl, hlater⟩ := ih hlater
      exact ⟨c :: earlier, later, rfl, by rwa [getLast?_cons_or]⟩

/-- The search goes on after a part in which no comparison begins. -/
theorem firstComparison?_skip
    (h : ∀ earlier later, part = earlier ++ later → later ≠ [] →
      comparisonAt? key (earlier.getLast?.or before) (later ++ rest) = none) :
    firstComparison? key before (part ++ rest) =
      firstComparison? key (part.getLast?.or before) rest := by
  induction part generalizing before with
  | nil => rfl
  | cons c part ih =>
    have hhere := h [] (c :: part) rfl (List.cons_ne_nil _ _)
    rw [List.cons_append, firstComparison?_cons, ← List.cons_append]
    rw [List.getLast?_nil, Option.none_or] at hhere
    rw [hhere, Option.none_or, getLast?_cons_or]
    refine ih fun earlier later hpart hne => ?_
    rw [← getLast?_cons_or]
    exact h (c :: earlier) later (by rw [hpart, List.cons_append]) hne

/-- The search ends in a part in which a comparison begins, if all that begin there are alike. -/
theorem firstComparison?_of_part
    (halike : ∀ earlier later y, part = earlier ++ later → later ≠ [] →
      comparisonAt? key (earlier.getLast?.or before) (later ++ rest) = some y → y = x)
    (h : ∃ earlier later, part = earlier ++ later ∧ later ≠ [] ∧
      comparisonAt? key (earlier.getLast?.or before) (later ++ rest) = some x) :
    firstComparison? key before (part ++ rest) = some x := by
  induction part generalizing before with
  | nil =>
    obtain ⟨earlier, later, hnil, hne, -⟩ := h
    exact absurd (List.append_eq_nil_iff.mp hnil.symm).2 hne
  | cons c part ih =>
    rw [List.cons_append, firstComparison?_cons, ← List.cons_append]
    cases hhere : comparisonAt? key before (c :: part ++ rest) with
    | some y => rw [Option.some_or, halike [] (c :: part) y rfl (List.cons_ne_nil _ _) hhere]
    | none =>
      rw [Option.none_or]
      refine ih (fun earlier later y hpart hne hy => ?_) ?_
      · rw [← getLast?_cons_or] at hy
        exact halike (c :: earlier) later y (by rw [hpart, List.cons_append]) hne hy
      · obtain ⟨earlier, later, hpart, hne, hx⟩ := h
        cases earlier with
        | nil =>
          obtain rfl : c :: part = later := hpart
          rw [List.getLast?_nil, Option.none_or, hhere] at hx
          cases hx
        | cons d earlier =>
          obtain ⟨rfl, rfl⟩ := List.cons.inj hpart
          rw [getLast?_cons_or] at hx
          exact ⟨earlier, later, rfl, hne, hx⟩

end Search

theorem exists_of_pinsPartition {statement key : String} (h : pinsPartition statement key = true) :
    ∃ before found after, statement.toList = before ++ found ++ after ∧
      SameLetters key.toList found ∧
      (before.getLast? = some '"' ∧ after.head? = some '"' ∨
        (bindsWord key.toList.head? = true → isBoundary before.getLast? found.head? = true) ∧
        (bindsWord key.toList.getLast? = true → isBoundary found.getLast? after.head? = true)) := by
  rw [pinsPartition, Bool.and_eq_true, beq_iff_eq] at h
  obtain ⟨earlier, later, htext, hlater⟩ := exists_of_firstComparison? h.2
  rw [comparisonAt?, Option.or_eq_some_iff, quotedComparison?_eq_some_iff,
    bareComparison?_eq_some_iff] at hlater
  rcases hlater with ⟨found, rest, rfl, hfound, -⟩ | ⟨-, found, rest, rfl, hfound, hfirst, hlast, -⟩
  · exact ⟨earlier ++ ['"'], found, '"' :: rest, by simp [htext], hfound, .inl (by simp)⟩
  · rw [Option.or_none] at hfirst
    exact ⟨earlier, found, rest, by simp [htext], hfound, .inr ⟨hfirst, hlast⟩⟩

/-! ### Keys in longer words -/

def isAsciiWord (c : Char) : Bool := c.isAlphanum || c == '_'

theorem toNat_lt_of_isAsciiWord {c : Char} (h : isAsciiWord c = true) : c.toNat < 0x80 := by
  have hends : c.val ≤ 'Z'.val ∨ c.val ≤ 'z'.val ∨ c.val ≤ '9'.val ∨ c = '_' := by
    rcases Bool.or_eq_true_iff.mp h with hletter | hline
    · rcases Bool.or_eq_true_iff.mp hletter with halpha | hdigit
      · rcases Bool.or_eq_true_iff.mp halpha with hupper | hlower
        · exact .inl (of_decide_eq_true hupper).2
        · exact .inr (.inl (of_decide_eq_true (Bool.and_eq_true_iff.mp hlower).2))
      · exact .inr (.inr (.inl (of_decide_eq_true (Bool.and_eq_true_iff.mp hdigit).2)))
    · exact .inr (.inr (.inr (beq_iff_eq.mp hline)))
  rcases hends with hhigh | hhigh | hhigh | rfl
  · exact Nat.lt_of_le_of_lt hhigh (by decide)
  · exact Nat.lt_of_le_of_lt hhigh (by decide)
  · exact Nat.lt_of_le_of_lt hhigh (by decide)
  · decide

theorem isAsciiWord_toLower {c : Char} (hc : c.toNat < 0x80) :
    isAsciiWord c.toLower = isAsciiWord c :=
  Text.of_toNat_lt hc (by decide +kernel)

theorem isWord_of_isAsciiWord {c : Char} (h : isAsciiWord c = true) :
    Text.isWord c = true ∧ bindsWord (some c) = true := by
  have hc := toNat_lt_of_isAsciiWord h
  constructor
  · rwa [Text.isWord_of_ascii hc]
  · rwa [bindsWord, Option.any_some, Text.isAlphanumeric_of_ascii hc]

/-- There is no boundary between a word and a further character of it. -/
theorem isBoundary_of_words {word : List Char} (hne : word ≠ [])
    (hword : ∀ c ∈ word, isAsciiWord c = true) {c : Char} (hc : isAsciiWord c = true) :
    isBoundary (some c) word.head? = false ∧ isBoundary word.getLast? (some c) = false := by
  have hends (d : Char) (hd : d ∈ word) : Text.isWord d = true :=
    (isWord_of_isAsciiWord (hword d hd)).1
  rw [List.head?_eq_some_head hne, List.getLast?_eq_some_getLast hne]
  simp [isBoundary, (isWord_of_isAsciiWord hc).1, hends _ (List.head_mem hne),
    hends _ (List.getLast_mem hne)]

theorem bindsWord_of_words {word : List Char} (hne : word ≠ [])
    (hword : ∀ c ∈ word, isAsciiWord c = true) :
    bindsWord word.head? = true ∧ bindsWord word.getLast? = true := by
  rw [List.head?_eq_some_head hne, List.getLast?_eq_some_getLast hne]
  exact ⟨(isWord_of_isAsciiWord (hword _ (List.head_mem hne))).2,
    (isWord_of_isAsciiWord (hword _ (List.getLast_mem hne))).2⟩

/-- A place in a statement where the letters of a key stand, ASCII case aside. -/
structure Occurrence (key statement : String) where
  before : List Char
  found : List Char
  after : List Char
  text : statement.toList = before ++ found ++ after
  letters : found.map Char.toLower = key.toList.map Char.toLower

namespace Occurrence
variable {key statement : String} (o : Occurrence key statement)

def InLongerWord : Prop :=
  o.before.getLast?.any isAsciiWord = true ∨ o.after.head?.any isAsciiWord = true

/-- An occurrence is given by the place where it begins. -/
theorem exists_place : ∃ n ≤ statement.toList.length, o.before = statement.toList.take n ∧
    o.found = (statement.toList.drop n).take key.toList.length ∧
    o.after = statement.toList.drop (n + key.toList.length) := by
  have hlength : o.found.length = key.toList.length := by
    simpa only [List.length_map] using congrArg List.length o.letters
  refine ⟨o.before.length, by simp [o.text], ?_⟩
  rw [o.text, ← hlength, List.append_assoc, List.take_left, List.drop_left, List.take_left,
    ← List.drop_drop, List.drop_left, List.drop_left]
  exact ⟨rfl, rfl, rfl⟩

theorem ascii (hstatement : ∀ c ∈ statement.toList, c.toNat < 0x80) :
    ∀ c ∈ o.found, c.toNat < 0x80 := by
  intro c hc
  exact hstatement c (by simp [o.text, hc])

/-- The key is found as letters, digits and underscores if it consists of them. -/
theorem isAsciiWord_found (hstatement : ∀ c ∈ statement.toList, c.toNat < 0x80)
    (hkey : ∀ c ∈ key.toList, isAsciiWord c = true) : ∀ c ∈ o.found, isAsciiWord c = true := by
  intro c hc
  have hmem : c.toLower ∈ key.toList.map Char.toLower := o.letters ▸ List.mem_map_of_mem hc
  obtain ⟨k, hk, hlower⟩ := List.mem_map.mp hmem
  rw [← isAsciiWord_toLower (o.ascii hstatement c hc), ← hlower,
    isAsciiWord_toLower (toNat_lt_of_isAsciiWord (hkey k hk))]
  exact hkey k hk

theorem found_ne_nil (hkey : key ≠ "") : o.found ≠ [] := by
  intro hnil
  have hletters := o.letters
  rw [hnil] at hletters
  exact hkey (String.toList_eq_nil_iff.mp (List.map_eq_nil_iff.mp hletters.symm))

end Occurrence

section Pins
variable {key statement : String} (hstatement : ∀ c ∈ statement.toList, c.toNat < 0x80)
include hstatement

/-- In ASCII, the key of a pinned partition stands in the statement, and it is no part of a longer
word if it is a word. -/
theorem exists_occurrence_of_pinsPartition (hkey : ∀ c ∈ key.toList, c.toNat < 0x80)
    (h : pinsPartition statement key = true) :
    ∃ o : Occurrence key statement,
      key ≠ "" → (∀ c ∈ key.toList, isAsciiWord c = true) → ¬ o.InLongerWord := by
  obtain ⟨before, found, after, htext, hsame, hplace⟩ := exists_of_pinsPartition h
  have hfound : ∀ c ∈ found, c.toNat < 0x80 := fun c hc => hstatement c (by simp [htext, hc])
  let o : Occurrence key statement :=
    ⟨before, found, after, htext, (hsame.toLower_eq hkey hfound).symm⟩
  refine ⟨o, fun hne hword hlonger => ?_⟩
  rcases hplace with ⟨hleft, hright⟩ | ⟨hleft, hright⟩
  · -- no double quote belongs to a word
    have hmark : (some '"').any isAsciiWord = false := by decide
    rw [Occurrence.InLongerWord, hleft, hright, hmark] at hlonger
    simp at hlonger
  · have hkeyne : key.toList ≠ [] := fun hnil => hne (String.toList_eq_nil_iff.mp hnil)
    obtain ⟨hfirst, hlast⟩ := bindsWord_of_words hkeyne hword
    have hends {c : Char} := isBoundary_of_words (c := c) (o.found_ne_nil hne)
      (o.isAsciiWord_found hstatement hword)
    simp only [Occurrence.InLongerWord, Option.any_eq_true] at hlonger
    rcases hlonger with ⟨c, hc, hcword⟩ | ⟨c, hc, hcword⟩
    · have hboundary := hleft hfirst
      rw [show before.getLast? = some c from hc, (hends hcword).1] at hboundary
      cases hboundary
    · have hboundary := hright hlast
      rw [show after.head? = some c from hc, (hends hcword).2] at hboundary
      cases hboundary

end Pins

/-- In ASCII, a partition is not pinned where the key, if it is a word, is only found in longer
words, nor where the key is not found at all, whatever its characters are. -/
theorem not_pinsPartition_without_key (key statement : String)
    (hstatement : ∀ c ∈ statement.toList, c.toNat < 0x80) :
    (key ≠ "" → (∀ c ∈ key.toList, isAsciiWord c = true) →
      (∀ o : Occurrence key statement, o.InLongerWord) → pinsPartition statement key = false) ∧
    ((∀ c ∈ key.toList, c.toNat < 0x80) → IsEmpty (Occurrence key statement) →
      pinsPartition statement key = false) := by
  constructor
  · intro hne hword hlonger
    have hkey : ∀ c ∈ key.toList, c.toNat < 0x80 := fun c hc => toNat_lt_of_isAsciiWord (hword c hc)
    refine Bool.eq_false_iff.mpr fun hpins => ?_
    obtain ⟨o, ho⟩ := exists_occurrence_of_pinsPartition hstatement hkey hpins
    exact ho hne hword (hlonger o)
  · intro hkey hnone
    refine Bool.eq_false_iff.mpr fun hpins => ?_
    obtain ⟨o, -⟩ := exists_occurrence_of_pinsPartition hstatement hkey hpins
    exact hnone.false o

theorem not_pinsPartition_by_longer_words :
    pinsPartition "SELECT * FROM T WHERE spk = 1 AND PK2 = 2" "pk" = false ∧
      pinsPartition "SELECT * FROM T WHERE axb = 1" "a.b" = false := by
  constructor
  · refine (not_pinsPartition_without_key _ _ (List.all_iff_forall_prop.mp (by decide +kernel))).1
      (by decide) (List.all_eq_true.mp (by decide)) fun o => ?_
    obtain ⟨n, hn, hbefore, hfound, hafter⟩ := o.exists_place
    have hletters := o.letters
    rw [Occurrence.InLongerWord, hbefore, hafter]
    rw [hfound] at hletters
    clear hbefore hfound hafter
    revert n
    decide +kernel
  · refine (not_pinsPartition_without_key _ _ (List.all_iff_forall_prop.mp (by decide +kernel))).2
      (List.all_iff_forall_prop.mp (by decide)) ⟨fun o => ?_⟩
    obtain ⟨n, hn, -, hfound, -⟩ := o.exists_place
    have hletters := o.letters
    rw [hfound] at hletters
    clear hfound
    revert n
    decide +kernel

end Statement

end ItemStore
