import ItemStore.Proofs.Query.KeyComparison
import ItemStore.Proofs.Query.ProjectedSource

/-! # Comparisons read in a name

The search for a key passes over a name in which the key does not stand. Where it stands there and the
letters of an operator follow, a comparison is read in the name: no character of a word may precede
these letters, but any may follow them. So only a key that ends in a hyphen, a dot or the like is
compared in a name, if the name is not the key itself.
-/
namespace ItemStore.Statement
open Text (SameLetters isBlank isWord isAlphanumeric trimStart dropWord? dropStart?)

/-! ### Operators -/

def StartsOperator (text : List Char) : Prop :=
  ∃ word ∈ ["in", "between"], word.toList <+: text.map Char.toLower

instance (text : List Char) : Decidable (StartsOperator text) :=
  inferInstanceAs (Decidable (∃ word ∈ ["in", "between"], _))

section Operators
variable {text rest : List Char} {x : Comparison}

theorem dropWord?_isSome_iff {word : String} :
    (dropWord? word text).isSome = true ↔ word.toList <+: text.map Char.toLower := by
  rw [dropWord?, Option.isSome_map, Option.isSome_iff_exists, ← String.length_toList, List.map_take]
  simp only [Text.dropStart?_eq_some_iff]
  constructor
  · rintro ⟨later, hlater⟩
    exact (List.prefix_append _ _).trans (hlater ▸ List.take_prefix _ _)
  · intro h
    exact ⟨[], by rw [List.append_nil, ← List.prefix_iff_eq_take.mp h]⟩

theorem StartsOperator.exists_cons (h : StartsOperator text) :
    ∃ c tail, text = c :: tail ∧ isWord c = true := by
  have hword {c : Char} (hlower : isAsciiWord c.toLower = true) : isWord c = true := by
    have hc := Text.toNat_lt_of_toLower (toNat_lt_of_isAsciiWord hlower)
    rw [isAsciiWord_toLower hc] at hlower
    exact (isWord_of_isAsciiWord hlower).1
  obtain ⟨word, hmem, hbegins⟩ := h
  have hwords : word = "in" ∨ word = "between" := by simpa using hmem
  cases text with
  | nil => rcases hwords with rfl | rfl <;> simp at hbegins
  | cons c tail =>
    refine ⟨c, tail, rfl, hword ?_⟩
    rcases hwords with rfl | rfl
    · have hlower : 'i' = c.toLower := (List.cons_prefix_cons.mp hbegins).1
      exact hlower ▸ by decide
    · have hlower : 'b' = c.toLower := (List.cons_prefix_cons.mp hbegins).1
      exact hlower ▸ by decide

theorem comparison?_eq_some_iff
    (h : ∀ c ∈ text.head?, isBlank c = false ∧ c ∉ ['=', '<', '>', '!']) :
    comparison? text = some x ↔ x = .other ∧ StartsOperator text := by
  have htrim : trimStart text = text := Text.trimStart_of_head fun c hc => (h c hc).1
  have hletters : ((dropWord? "in" text).or (dropWord? "between" text)).isSome = true ↔
      StartsOperator text := by
    rw [Option.isSome_or, Bool.or_eq_true, dropWord?_isSome_iff, dropWord?_isSome_iff,
      StartsOperator]
    simp only [List.mem_cons, List.not_mem_nil, or_false, exists_eq_or_imp, exists_eq_left]
  have hmatch : comparison? text =
      ((dropWord? "in" text).or (dropWord? "between" text)).map fun _ => .other := by
    simp only [comparison?, htrim]
    split
    · exact absurd (h _ rfl).2 (by decide)
    · exact absurd (h _ rfl).2 (by decide)
    · exact absurd (h _ rfl).2 (by decide)
    · exact absurd (h _ rfl).2 (by decide)
    · rfl
  rw [hmatch, ← hletters, Option.map_eq_some_iff, Option.isSome_iff_exists]
  constructor
  · rintro ⟨later, hlater, rfl⟩
    exact ⟨rfl, later, hlater⟩
  · rintro ⟨rfl, later, hlater⟩
    exact ⟨later, hlater, rfl⟩

theorem startsOperator_cons {c : Char} :
    StartsOperator (c :: text) ↔ c.toLower = 'i' ∧ ['n'] <+: text.map Char.toLower ∨
      c.toLower = 'b' ∧ "etween".toList <+: text.map Char.toLower := by
  simp [StartsOperator, List.cons_prefix_cons, eq_comm]

theorem comparison?_space : comparison? (' ' :: text) = comparison? text := rfl

theorem comparison?_eq_none {c : Char} (hc : isBlank c = false ∧ c ∉ ['=', '<', '>', '!'])
    (hletter : c.toLower ≠ 'i' ∧ c.toLower ≠ 'b') : comparison? (c :: text) = none := by
  refine Option.eq_none_iff_forall_ne_some.mpr fun x hx => ?_
  obtain ⟨-, hstarts⟩ := (comparison?_eq_some_iff (by simpa using hc)).mp hx
  simp [startsOperator_cons, hletter] at hstarts

theorem comparison?_index : comparison? (' ' :: ("INDEX".toList ++ rest)) = some .other := by
  rw [comparison?_space, comparison?_eq_some_iff (by simp; decide)]
  exact ⟨rfl, "in", by decide, "dex".toList ++ rest.map Char.toLower, by simp⟩

theorem comparison?_mark : comparison? ('"' :: rest) = none :=
  comparison?_eq_none (by decide) (by decide)

/-- The letters of an operator do not go on with a character that is no letter. -/
theorem startsOperator_append_cons {d : Char} (hd : Text.IsCaseless d) :
    StartsOperator (text ++ d :: rest) ↔ StartsOperator text := by
  have hmem {word : String} (hword : word ∈ ["in", "between"]) : d.toLower ∉ word.toList := by
    have hwords : ∀ word ∈ ["in", "between"], (word.toList.all fun c => ¬ Text.IsCaseless c) := by
      decide
    rw [hd.maps.2]
    exact fun hmem => List.all_iff_forall_prop.mp (hwords word hword) d hmem hd
  simp only [StartsOperator, List.map_append, List.map_cons, ← List.isPrefixOf_iff_prefix]
  refine exists_congr fun word => and_congr_right fun hword => ?_
  rw [Text.isPrefixOf_append_cons (hmem hword)]

end Operators

/-! ### Names -/

def isNameLetter (c : Char) : Bool := isAlphanumeric c || c == '_' || c == '-' || c == '.'

structure IsSeparator (d : Char) : Prop where
  caseless : Text.IsCaseless d
  notWord : isWord d = false
  notName : isNameLetter d = false

theorem isSeparator_of_mem {d : Char} (h : d ∈ [' ', '*', '"']) : IsSeparator d := by
  have hall : ∀ d ∈ [' ', '*', '"'],
      Text.IsCaseless d ∧ isWord d = false ∧ isNameLetter d = false :=
    List.all_iff_forall_prop.mp (by decide)
  obtain ⟨hcaseless, hword, hname⟩ := hall d h
  exact ⟨hcaseless, hword, hname⟩

/-- A name letter is neither a blank nor a quote nor the sign of an operator. -/
theorem isPlain_of_isNameLetter {c : Char} (h : isNameLetter c = true) :
    IsPlain c ∧ c ∉ ['=', '<', '>', '!'] := by
  have hsigns : ∀ d ∈ ['"', '\'', ';', '=', '<', '>', '!'], isNameLetter d = false :=
    List.all_iff_forall_prop.mp (by decide)
  have hne {d : Char} (hd : d ∈ ['"', '\'', ';', '=', '<', '>', '!']) : c ≠ d := by
    rintro rfl
    rw [hsigns c hd] at h
    cases h
  refine ⟨⟨Bool.eq_false_iff.mpr fun hblank => ?_, ?_, hne (by decide)⟩, fun hmem => ?_⟩
  · have hothers : ∀ d ∈ ['_', '-', '.'], isBlank d = false := List.all_iff_forall_prop.mp (by decide)
    simp only [isNameLetter, Text.isAlphanumeric_of_isBlank hblank, Bool.false_or, Bool.or_eq_true,
      beq_iff_eq] at h
    rw [hothers c (by simpa [or_assoc] using h)] at hblank
    cases hblank
  · simp [isQuote, hne]
  · exact hne (List.mem_cons_of_mem _ (List.mem_cons_of_mem _ (List.mem_cons_of_mem _ hmem))) rfl

structure StoreName where
  name : String
  nonempty : name ≠ ""
  letters : ∀ c ∈ name.toList, isNameLetter c = true

namespace StoreName

def ofString (name : String) (h : name ≠ "" ∧ name.toList.all isNameLetter = true) : StoreName :=
  ⟨name, h.1, List.all_eq_true.mp h.2⟩

variable (n : StoreName)

theorem toList_ne_nil : n.name.toList ≠ [] := fun h => n.nonempty (String.toList_eq_nil_iff.mp h)

def toName : Name :=
  ⟨n.name.toList, n.toList_ne_nil, fun c hc => (isPlain_of_isNameLetter (n.letters c hc)).1, true⟩

theorem text_toName : n.toName.text = '"' :: (n.name.toList ++ ['"']) := rfl

end StoreName

/-- A comparison is read in a name: the key stands in it, begins as a word has to if it is one, and
ends in no character of a word, so that the letters of an operator which follow are read as one. -/
def NamesComparison (key name : List Char) : Prop :=
  ∃ before found after, name = before ++ found ++ after ∧ SameLetters key found ∧
    (bindsWord key.head? = true → isBoundary before.getLast? found.head? = true) ∧
    (∀ c ∈ found.getLast?, isWord c = false) ∧ StartsOperator after

theorem not_namesComparison {key name : List Char} (hkey : key ≠ [])
    (h : ∀ t ∈ name.tail.tails, ¬ StartsOperator t) : ¬ NamesComparison key name := by
  rintro ⟨before, found, after, rfl, hsame, -, -, hoperator⟩
  have hne : before ++ found ≠ [] := by
    have hlength := hsame.length_eq
    rintro hnil
    rw [(List.append_eq_nil_iff.mp hnil).2] at hlength
    exact hkey (List.length_eq_zero_iff.mp hlength)
  obtain ⟨c, lead, hlead⟩ := List.exists_cons_of_ne_nil hne
  refine h after ?_ hoperator
  rw [hlead, List.cons_append, List.tail_cons, List.mem_tails]
  exact List.suffix_append lead after

/-- What stands before a character that it does not have ends before that character. -/
theorem exists_of_append_eq_append_cons {found later part rest : List Char} {d : Char}
    (h : found ++ later = part ++ d :: rest) (hd : d ∉ found) :
    ∃ after, part = found ++ after ∧ later = after ++ d :: rest := by
  rcases List.append_eq_append_iff.mp h with ⟨after, hpart, hlater⟩ | ⟨after, rfl, hcons⟩
  · exact ⟨after, hpart, hlater⟩
  · cases after with
    | nil => exact ⟨[], by simp, hcons.symm⟩
    | cons c after =>
      obtain ⟨rfl, -⟩ := List.cons.inj hcons
      exact absurd (List.mem_append_right _ List.mem_cons_self) hd

theorem isBoundary_or {first second after : Option Char} (h : second.any isWord = false) :
    isBoundary (first.or second) after = isBoundary first after := by
  cases first with
  | none => rw [Option.none_or, isBoundary, isBoundary, h, Option.any_none]
  | some c => rfl

section Runs
variable {key run rest : List Char} {before : Option Char} {x : Comparison}
variable (hletters : ∀ c ∈ key, isNameLetter c = true)
include hletters

/-- What has the letters of a name has no separator in it. -/
theorem not_mem_of_sameLetters {found : List Char} (h : SameLetters key found) {d : Char}
    (hd : IsSeparator d) : d ∉ found := by
  intro hmem
  have hfold : Text.foldCase d ∈ key.map Text.foldCase := h ▸ List.mem_map_of_mem hmem
  obtain ⟨k, hk, hsame⟩ := List.mem_map.mp hfold
  obtain rfl := Text.eq_of_sameLetter hd.caseless (by simpa [Text.sameLetter] using hsame)
  have hname := hletters k hk
  rw [hd.notName] at hname
  cases hname

/-- A key that a letter follows ends in no character of a word. -/
theorem isWord_getLast {found : List Char} (h : SameLetters key found) {a : Char}
    (ha : isWord a = true) :
    (bindsWord key.getLast? = true → isBoundary found.getLast? (some a) = true) ↔
      ∀ c ∈ found.getLast?, isWord c = false := by
  have hlasts : key.getLast?.map Text.foldCase = found.getLast?.map Text.foldCase := by
    simpa only [List.getLast?_map] using congrArg List.getLast? h
  cases hk : key.getLast? with
  | none =>
    rw [hk, Option.map_none, eq_comm, Option.map_eq_none_iff] at hlasts
    simp [hlasts, bindsWord]
  | some k =>
    rw [hk, Option.map_some, eq_comm, Option.map_eq_some_iff] at hlasts
    obtain ⟨c, hc, hfold⟩ := hlasts
    by_cases hbinds : bindsWord (some k) = true
    · simp [hc, hbinds, isBoundary, ha]
    · -- the key ends in a hyphen or a dot, and so does what was found
      have hsigns : ∀ d ∈ ['-', '.'], Text.IsCaseless d ∧ isWord d = false :=
        List.all_iff_forall_prop.mp (by decide)
      have hname := hletters k (List.mem_of_getLast? hk)
      have hsign : k ∈ ['-', '.'] := by
        simp only [bindsWord, Option.any_some, Bool.not_eq_true] at hbinds
        simpa [isNameLetter, hbinds] using hname
      obtain ⟨hcaseless, hword⟩ := hsigns k hsign
      obtain rfl := Text.eq_of_sameLetter hcaseless (by simpa [Text.sameLetter] using hfold)
      simp [hc, hbinds, hword]

/-- The key is compared at a place of a name only if the letters of an operator follow it there. -/
theorem comparisonAt?_run (hrun : ∀ c ∈ run, isNameLetter c = true) {d : Char} (hd : IsSeparator d)
    (hnone : comparison? (d :: rest) = none) (hbefore : before.any isWord = false)
    {earlier later : List Char} (hsplit : run = earlier ++ later) (hne : later ≠ []) :
    comparisonAt? key (earlier.getLast?.or before) (later ++ d :: rest) = some x ↔
      x = .other ∧ ∃ found after, later = found ++ after ∧ SameLetters key found ∧
        (bindsWord key.head? = true → isBoundary earlier.getLast? found.head? = true) ∧
        (∀ c ∈ found.getLast?, isWord c = false) ∧ StartsOperator after := by
  have hlater : ∀ c ∈ later, isNameLetter c = true := fun c hc => hrun c (by simp [hsplit, hc])
  have hquoted : quotedComparison? key (later ++ d :: rest) = none := by
    obtain ⟨c, tail, rfl⟩ := List.exists_cons_of_ne_nil hne
    have hmark : c ≠ '"' := by
      rintro rfl
      exact absurd (hlater '"' List.mem_cons_self) (by decide)
    simp [quotedComparison?, dropStart?, hmark.symm]
  have hoperator {after : List Char} (hafter : ∀ c ∈ after, isNameLetter c = true) :
      comparison? (after ++ d :: rest) = some x ↔ x = .other ∧ StartsOperator after := by
    cases after with
    | nil => simp [hnone, StartsOperator]
    | cons a after =>
      have ha := isPlain_of_isNameLetter (hafter a List.mem_cons_self)
      rw [comparison?_eq_some_iff, startsOperator_append_cons hd.caseless]
      simpa using ⟨ha.1.1, by simpa using ha.2⟩
  rw [comparisonAt?, hquoted, Option.none_or, bareComparison?_eq_some_iff]
  constructor
  · rintro ⟨found, tail, htext, hsame, hleft, hright, hcompared⟩
    obtain ⟨after, rfl, rfl⟩ := exists_of_append_eq_append_cons htext.symm
      (not_mem_of_sameLetters hletters hsame hd)
    obtain ⟨rfl, hstarts⟩ :=
      (hoperator fun c hc => hlater c (List.mem_append_right _ hc)).mp hcompared
    obtain ⟨a, tail, rfl, ha⟩ := hstarts.exists_cons
    refine ⟨rfl, found, a :: tail, rfl, hsame, ?_, (isWord_getLast hletters hsame ha).mp hright,
      hstarts⟩
    rwa [isBoundary_or hbefore] at hleft
  · rintro ⟨rfl, found, after, rfl, hsame, hleft, hlast, hstarts⟩
    refine ⟨found, after ++ d :: rest, by rw [List.append_assoc], hsame, ?_, ?_,
      (hoperator fun c hc => hlater c (List.mem_append_right _ hc)).mpr ⟨rfl, hstarts⟩⟩
    · rwa [isBoundary_or hbefore]
    · obtain ⟨a, tail, rfl, ha⟩ := hstarts.exists_cons
      exact (isWord_getLast hletters hsame ha).mpr hlast

/-- A name is passed over, or a comparison other than an equality is read in it. -/
theorem firstComparison?_run (hrun : ∀ c ∈ run, isNameLetter c = true) {d : Char} (hd : IsSeparator d)
    (hnone : comparison? (d :: rest) = none) (hbefore : before.any isWord = false) :
    firstComparison? key before (run ++ d :: rest) = some .equality ↔
      ¬ NamesComparison key run ∧
        firstComparison? key (run.getLast?.or before) (d :: rest) = some .equality := by
  by_cases hnames : NamesComparison key run
  · have hother : firstComparison? key before (run ++ d :: rest) = some .other := by
      refine firstComparison?_of_part (fun earlier later y hsplit hne hy => ?_) ?_
      · exact ((comparisonAt?_run hletters hrun hd hnone hbefore hsplit hne).mp hy).1
      · obtain ⟨earlier, found, after, hsplit, hsame, hleft, hlast, hstarts⟩ := hnames
        obtain ⟨a, tail, rfl, -⟩ := hstarts.exists_cons
        rw [List.append_assoc] at hsplit
        have hne : found ++ a :: tail ≠ [] := by simp
        exact ⟨earlier, found ++ a :: tail, hsplit, hne,
          (comparisonAt?_run hletters hrun hd hnone hbefore hsplit hne).mpr
            ⟨rfl, found, a :: tail, rfl, hsame, hleft, hlast, hstarts⟩⟩
    simp [hother, hnames]
  · rw [firstComparison?_skip fun earlier later hsplit hne => ?_]
    · simp [hnames]
    · refine Option.eq_none_iff_forall_ne_some.mpr fun x hx => hnames ?_
      obtain ⟨-, found, after, rfl, hsame, hleft, hlast, hstarts⟩ :=
        (comparisonAt?_run hletters hrun hd hnone hbefore hsplit hne).mp hx
      exact ⟨earlier, found, after, by rw [hsplit, List.append_assoc], hsame, hleft, hlast, hstarts⟩

variable (hkey : key ≠ [])
include hkey

theorem bareComparison?_separator {d : Char} (hd : IsSeparator d) :
    bareComparison? key before (d :: rest) = none := by
  refine Option.eq_none_iff_forall_ne_some.mpr fun x hx => ?_
  obtain ⟨found, later, htext, hsame, -⟩ := bareComparison?_eq_some_iff.mp hx
  cases found with
  | nil => exact hkey (List.length_eq_zero_iff.mp hsame.length_eq)
  | cons c found =>
    obtain ⟨rfl, -⟩ := List.cons.inj htext
    exact not_mem_of_sameLetters hletters hsame hd List.mem_cons_self

/-- No comparison begins at a separator, if it is not the quote before a name. -/
theorem firstComparison?_separator {d : Char} (hd : IsSeparator d)
    (hquote : d = '"' → ∃ e tail, rest = e :: tail ∧ IsSeparator e) :
    firstComparison? key before (d :: rest) = firstComparison? key (some d) rest := by
  have hquoted : quotedComparison? key (d :: rest) = none := by
    refine Option.eq_none_iff_forall_ne_some.mpr fun x hx => ?_
    obtain ⟨found, later, htext, hsame, -⟩ := quotedComparison?_eq_some_iff.mp hx
    obtain ⟨rfl, hrest⟩ := List.cons.inj htext
    obtain ⟨e, tail, rfl, he⟩ := hquote rfl
    cases found with
    | nil => exact hkey (List.length_eq_zero_iff.mp hsame.length_eq)
    | cons c found =>
      obtain ⟨rfl, -⟩ := List.cons.inj hrest
      exact not_mem_of_sameLetters hletters hsame he List.mem_cons_self
  rw [firstComparison?_cons, comparisonAt?, hquoted, bareComparison?_separator hletters hkey hd]
  rfl

/-- A word is passed over together with the separator after it. -/
theorem firstComparison?_word (hrun : ∀ c ∈ run, isNameLetter c = true) {d : Char} (hd : IsSeparator d)
    (hquote : d = '"' → ∃ e tail, rest = e :: tail ∧ IsSeparator e)
    (hnone : comparison? (d :: rest) = none) (hbefore : before.any isWord = false) :
    firstComparison? key before (run ++ d :: rest) = some .equality ↔
      ¬ NamesComparison key run ∧ firstComparison? key (some d) rest = some .equality := by
  rw [firstComparison?_run hletters hrun hd hnone hbefore,
    firstComparison?_separator hletters hkey hd hquote]

/-- At the quote before a name, the key in double quotes is compared if the name is the key. -/
theorem firstComparison?_quoted {name : List Char} (hname : ∀ c ∈ name, isNameLetter c = true) :
    firstComparison? key before ('"' :: (name ++ '"' :: rest)) =
      (if SameLetters key name then comparison? rest else none).or
        (firstComparison? key (some '"') (name ++ '"' :: rest)) := by
  have hmark : IsSeparator '"' := isSeparator_of_mem (by decide)
  have hquoted : quotedComparison? key ('"' :: (name ++ '"' :: rest)) =
      if SameLetters key name then comparison? rest else none := by
    ext x
    rw [quotedComparison?_eq_some_iff, Option.ite_none_right_eq_some]
    constructor
    · rintro ⟨found, later, htext, hsame, hlater⟩
      obtain ⟨after, rfl, hafter⟩ := exists_of_append_eq_append_cons (List.cons.inj htext).2.symm
        (not_mem_of_sameLetters hletters hsame hmark)
      cases after with
      | nil =>
        obtain ⟨-, rfl⟩ := List.cons.inj hafter
        exact ⟨by rwa [List.append_nil], hlater⟩
      | cons c after =>
        obtain ⟨rfl, -⟩ := List.cons.inj hafter
        exact absurd (hname '"' (by simp)) (by decide)
    · rintro ⟨hsame, hrest⟩
      exact ⟨name, rest, rfl, hsame, hrest⟩
  rw [firstComparison?_cons, comparisonAt?, hquoted, bareComparison?_separator hletters hkey hmark,
    Option.or_none]

end Runs

end ItemStore.Statement
