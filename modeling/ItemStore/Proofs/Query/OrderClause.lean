import ItemStore.Proofs.Query.OrderPlan
import ItemStore.Proofs.Text.LetterCase

/-! # Statements that order their rows already

A statement orders its rows if the words `ORDER BY` stand in it in any case, with a single blank
between them. Such a statement is left as it is, and so is one to which an order has been put. Words
that are parted in any other way are not recognized, so that a second clause follows them.
-/
namespace ItemStore

namespace Text

/-! ### Upper-case words in a text -/

section Upper
variable {d : Char} {part phrase text : List Char}

@[simp] theorem upperText_cons (c : Char) (text : List Char) :
    upperText (c :: text) = upper c ++ upperText text := List.flatMap_cons

@[simp] theorem upperText_append (text rest : List Char) :
    upperText (text ++ rest) = upperText text ++ upperText rest := List.flatMap_append

theorem cons_prefix_upperText_iff (hd : IsOwnUpper d) :
    d :: part <+: upperText text ↔
      ∃ c rest, text = c :: rest ∧ c.toLower = d.toLower ∧ part <+: upperText rest := by
  constructor
  · intro h
    cases text with
    | nil => simp [upperText] at h
    | cons c rest =>
      obtain ⟨first, later, hupper⟩ := List.exists_cons_of_ne_nil (upper_ne_nil c)
      rw [upperText_cons, hupper, List.cons_append, List.cons_prefix_cons] at h
      obtain ⟨rfl, hpart⟩ := h
      have hmem : d ∈ upper c := hupper ▸ List.mem_cons_self
      obtain ⟨hlower, hsingle⟩ := upper_of_mem hd hmem
      obtain rfl : later = [] := (List.cons.inj (hupper.symm.trans hsingle)).2
      exact ⟨c, rest, rfl, hlower, hpart⟩
  · rintro ⟨c, rest, rfl, hlower, hpart⟩
    rw [upperText_cons, upper_of_toLower_eq hd hlower]
    exact List.cons_prefix_cons.mpr ⟨rfl, hpart⟩

theorem append_prefix_upperText_iff (h : ∀ d ∈ phrase, IsOwnUpper d) :
    phrase ++ part <+: upperText text ↔ ∃ words rest, text = words ++ rest ∧
      words.map Char.toLower = phrase.map Char.toLower ∧ part <+: upperText rest := by
  induction phrase generalizing text with
  | nil => simp
  | cons d phrase ih =>
    obtain ⟨hd, hphrase⟩ := List.forall_mem_cons.mp h
    rw [List.cons_append, cons_prefix_upperText_iff hd]
    constructor
    · rintro ⟨c, later, rfl, hlower, hpart⟩
      obtain ⟨words, rest, rfl, hwords, hpart⟩ := (ih hphrase).mp hpart
      exact ⟨c :: words, rest, rfl, by rw [List.map_cons, List.map_cons, hlower, hwords], hpart⟩
    · rintro ⟨words, rest, rfl, hwords, hpart⟩
      obtain ⟨c, words, rfl, hlower, hwords⟩ := List.map_eq_cons_iff.mp hwords
      exact ⟨c, words ++ rest, rfl, hlower, (ih hphrase).mpr ⟨words, rest, rfl, hwords, hpart⟩⟩

/-- What begins with a letter of ASCII alone begins with the form of one character. -/
theorem infix_upperText_iff (hd : IsOwnUpper d) :
    d :: part <:+: upperText text ↔ ∃ t, t <:+ text ∧ d :: part <+: upperText t := by
  constructor
  · intro h
    induction text with
    | nil => exact ⟨[], List.suffix_rfl, by simp [upperText] at h⟩
    | cons c rest ih =>
      have hlater (h : d :: part <:+: upperText rest) :
          ∃ t, t <:+ c :: rest ∧ d :: part <+: upperText t := by
        obtain ⟨t, ht, hbegins⟩ := ih h
        exact ⟨t, ht.trans (List.suffix_cons c rest), hbegins⟩
      by_cases hmem : d ∈ upper c
      · rw [upperText_cons, (upper_of_mem hd hmem).2] at h
        rcases List.infix_cons_iff.mp h with hbegins | hwithin
        · exact ⟨c :: rest, List.suffix_rfl, by rwa [upperText_cons, (upper_of_mem hd hmem).2]⟩
        · exact hlater hwithin
      · rw [upperText_cons, List.infix_append_iff] at h
        obtain hwithin | hwithin | ⟨first, later, hsplit, hfirst, hrest⟩ := h
        · exact absurd (hwithin.subset List.mem_cons_self) hmem
        · exact hlater hwithin
        · cases first with
          | nil => exact hlater (hsplit ▸ hrest.isInfix)
          | cons e first =>
            obtain ⟨rfl, -⟩ := List.cons.inj hsplit
            exact absurd (hfirst.subset List.mem_cons_self) hmem
  · rintro ⟨t, ⟨lead, rfl⟩, hbegins⟩
    rw [upperText_append]
    exact hbegins.isInfix.trans (List.suffix_append _ _).isInfix

theorem y_prefix_upperText_iff :
    ['Y'] <+: upperText text ↔
      ∃ c rest, text = c :: rest ∧ (c.toLower = 'y' ∨ c.toLower = '\u1E99') := by
  cases text with
  | nil => simp [upperText]
  | cons c rest =>
    have hhead : ['Y'] <+: upper c ++ upperText rest ↔ (upper c).head? = some 'Y' := by
      obtain ⟨first, later, hupper⟩ := List.exists_cons_of_ne_nil (upper_ne_nil c)
      simp [hupper, List.cons_prefix_cons, eq_comm]
    rw [upperText_cons, hhead, head?_upper_eq_y]
    simp

end Upper

end Text

namespace Statement

/-- The words that order rows, in any case, with one blank between them. The last letter may carry a
ring, as its upper-case form then is the letter and the ring. -/
def SpellsOrder (words : List Char) : Prop :=
  words.map Char.toLower = "order by".toList ∨ words.map Char.toLower = "order b\u1E99".toList

theorem spellsOrder_iff {words : List Char} :
    SpellsOrder words ↔ ∃ start last, words = start ++ [last] ∧
      start.map Char.toLower = "ORDER B".toList.map Char.toLower ∧
        (last.toLower = 'y' ∨ last.toLower = '\u1E99') := by
  have hends (y : Char) : words.map Char.toLower = "ORDER B".toList.map Char.toLower ++ [y] ↔
      ∃ start last, words = start ++ [last] ∧
        start.map Char.toLower = "ORDER B".toList.map Char.toLower ∧ last.toLower = y := by
    constructor
    · intro h
      obtain ⟨start, ends, rfl, hstart, hends⟩ := List.map_eq_append_iff.mp h
      obtain ⟨last, rfl, hlast⟩ := List.map_eq_singleton_iff.mp hends
      exact ⟨start, last, rfl, hstart, hlast⟩
    · rintro ⟨start, last, rfl, hstart, rfl⟩
      rw [List.map_append, hstart, List.map_singleton]
  have hplain : "order by".toList = "ORDER B".toList.map Char.toLower ++ ['y'] := by decide
  have hring : "order b\u1E99".toList = "ORDER B".toList.map Char.toLower ++ ['\u1E99'] := by decide
  rw [SpellsOrder, hplain, hring, hends, hends]
  constructor
  · rintro (⟨start, last, hwords, hstart, hlast⟩ | ⟨start, last, hwords, hstart, hlast⟩)
    · exact ⟨start, last, hwords, hstart, .inl hlast⟩
    · exact ⟨start, last, hwords, hstart, .inr hlast⟩
  · rintro ⟨start, last, hwords, hstart, hlast | hlast⟩
    · exact .inl ⟨start, last, hwords, hstart, hlast⟩
    · exact .inr ⟨start, last, hwords, hstart, hlast⟩

/-- The upper-case form of a text begins with the phrase where the words stand. -/
theorem order_prefix_upperText_iff {text : List Char} :
    "ORDER BY".toList <+: Text.upperText text ↔
      ∃ words rest, text = words ++ rest ∧ SpellsOrder words := by
  have hown : ∀ d ∈ "ORDER B".toList, Text.IsOwnUpper d := List.all_iff_forall_prop.mp (by decide)
  have hphrase : "ORDER BY".toList = "ORDER B".toList ++ ['Y'] := by decide
  rw [hphrase, Text.append_prefix_upperText_iff hown]
  constructor
  · rintro ⟨start, later, rfl, hstart, hletter⟩
    obtain ⟨last, rest, rfl, hlast⟩ := Text.y_prefix_upperText_iff.mp hletter
    exact ⟨start ++ [last], rest, by simp, spellsOrder_iff.mpr ⟨start, last, rfl, hstart, hlast⟩⟩
  · rintro ⟨words, rest, rfl, hwords⟩
    obtain ⟨start, last, rfl, hstart, hlast⟩ := spellsOrder_iff.mp hwords
    exact ⟨start, last :: rest, by simp, hstart,
      Text.y_prefix_upperText_iff.mpr ⟨last, rest, rfl, hlast⟩⟩

theorem hasOrder_iff {statement : String} :
    hasOrder statement = true ↔ ∃ words, words <:+: statement.toList ∧ SpellsOrder words := by
  rw [hasOrder, mentions, Text.contains_iff]
  constructor
  · intro h
    obtain ⟨t, ⟨lead, hlead⟩, hbegins⟩ := (Text.infix_upperText_iff (by decide)).mp h
    obtain ⟨words, rest, rfl, hwords⟩ := order_prefix_upperText_iff.mp hbegins
    exact ⟨words, ⟨lead, rest, by rw [← hlead, List.append_assoc]⟩, hwords⟩
  · rintro ⟨words, ⟨lead, rest, hsplit⟩, hwords⟩
    refine (Text.infix_upperText_iff (by decide)).mpr ⟨words ++ rest, ⟨lead, ?_⟩, ?_⟩
    · rw [← hsplit, List.append_assoc]
    · exact order_prefix_upperText_iff.mpr ⟨words, rest, rfl, hwords⟩

/-! ### Orders put to a statement -/

/-- The statement with its rows ordered by a key, or as it is if no order can be put to it. -/
def ordered (statement key : String) (direction : Direction) : String :=
  (withOrder? statement key direction).getD statement

section Orders
variable {statement key other : String} {direction otherDirection : Direction}

theorem withOrder?_eq_of_hasOrder (h : hasOrder statement = true) :
    withOrder? statement key direction = if key = "" then none else some statement := by
  by_cases hkey : key = ""
  · rw [withOrder?, if_pos hkey, if_pos hkey]
  · rw [withOrder?_of_hasOrder direction hkey h, if_neg hkey]

theorem ordered_of_hasOrder (h : hasOrder statement = true) :
    ordered statement key direction = statement := by
  rw [ordered, withOrder?_eq_of_hasOrder h]
  split <;> rfl

theorem ordered_of_empty_key : ordered statement "" direction = statement := by
  rw [ordered, withOrder?, if_pos rfl]
  rfl

/-- Without a condition no order can be put to a statement, whatever the key is. -/
theorem ordered_of_unconditioned (h : hasOrder statement = false)
    (hwhere : mentions "WHERE" statement = false) : ordered statement key direction = statement := by
  by_cases hkey : key = ""
  · rw [hkey, ordered_of_empty_key]
  · rw [ordered, withOrder?_of_unordered hkey h, hwhere]
    rfl

theorem hasOrder_ordered (hkey : key ≠ "") (hwhere : mentions "WHERE" statement = true) :
    hasOrder (ordered statement key direction) = true := by
  cases h : hasOrder statement with
  | true => rwa [ordered_of_hasOrder h]
  | false =>
    rw [ordered, withOrder?_of_unordered hkey h, hwhere]
    exact hasOrder_ordering statement key direction

/-- A second order changes nothing after a first one, and decides alone if the first has no key. -/
theorem ordered_ordered :
    ordered (ordered statement key direction) other otherDirection =
      if key = "" then ordered statement other otherDirection
      else ordered statement key direction := by
  split
  · next hkey => rw [hkey, ordered_of_empty_key]
  · next hkey =>
    cases h : hasOrder statement with
    | true => rw [ordered_of_hasOrder h, ordered_of_hasOrder h]
    | false =>
      cases hwhere : mentions "WHERE" statement with
      | true => exact ordered_of_hasOrder (hasOrder_ordered hkey hwhere)
      | false => rw [ordered_of_unconditioned h hwhere, ordered_of_unconditioned h hwhere]

end Orders

/-- A statement orders its rows exactly if the words stand in it with one blank between them. Then no
order is put to it, neither by itself nor in a plan. After an order with a key no second one is put to
a statement, whatever that one is. -/
theorem order_not_repeated (statement : String) :
    (hasOrder statement = true ↔ ∃ words, words <:+: statement.toList ∧ SpellsOrder words) ∧
    (hasOrder statement = true →
      (∀ key direction,
        withOrder? statement key direction = if key = "" then none else some statement) ∧
      ∀ (query : Query) (store : Store), query.statement = statement →
        (NativeOrder.plan query store).1.statement = statement) ∧
    ∀ key direction other otherDirection,
      ordered (ordered statement key direction) other otherDirection =
        if key = "" then ordered statement other otherDirection
        else ordered statement key direction := by
  refine ⟨hasOrder_iff, fun h => ⟨fun _ _ => withOrder?_eq_of_hasOrder h, ?_⟩,
    fun _ _ _ _ => ordered_ordered⟩
  rintro query store rfl
  by_contra hne
  obtain ⟨forward, sortKey, horderable⟩ := NativeOrder.statement_ne_iff.mp hne
  rw [horderable.unordered] at h
  cases h

/-- The words are found in lower case, and a key in another case is not put after them. -/
theorem order_not_repeated_in_lower_case :
    let statement := "SELECT * FROM \"T\" WHERE pk = 1 order by sk"
    let query : Query := { statement, scanForward := some false }
    let store : Store := { tables := [⟨"T", [⟨"pk", .partition⟩, ⟨"sk", .sort⟩], [], [], []⟩] }
    hasOrder statement = true ∧
      withOrder? statement "SK" .descending = some statement ∧
      (NativeOrder.plan query store).1.statement = statement ∧
      ordered (ordered statement "a" .ascending) "b" .descending =
        ordered statement "a" .ascending := by
  intro statement query store
  obtain ⟨hfound, hkept, hrepeated⟩ := order_not_repeated statement
  have hwords : hasOrder statement = true := by
    refine hfound.mpr
      ⟨"order by".toList, ⟨"SELECT * FROM \"T\" WHERE pk = 1 ".toList, " sk".toList, ?_⟩, .inl ?_⟩
    · decide
    · decide
  have hput := (hkept hwords).1 "SK" .descending
  have hagain := hrepeated "a" .ascending "b" .descending
  rw [if_neg (by decide)] at hput hagain
  exact ⟨hwords, hput, (hkept hwords).2 query store rfl, hagain⟩

/-- Words that two blanks, a tab or the end of a line part are not found, and a second clause is put
after them. -/
theorem order_repeated_after_other_blanks :
    let statement (gap : String) := "SELECT * FROM \"T\" WHERE pk = 1 ORDER" ++ gap ++ "BY sk"
    let ordered (gap : String) := statement gap ++ " ORDER BY \"sk\" ASC"
    let query : Query := { statement := statement "  ", scanForward := some true }
    let store : Store := { tables := [⟨"T", [⟨"pk", .partition⟩, ⟨"sk", .sort⟩], [], [], []⟩] }
    hasOrder (statement "  ") = false ∧ hasOrder (statement "\t") = false ∧
      hasOrder (statement "\n") = false ∧
      withOrder? (statement "  ") "sk" .ascending = some (ordered "  ") ∧
      withOrder? (statement "\t") "sk" .ascending = some (ordered "\t") ∧
      withOrder? (statement "\n") "sk" .ascending = some (ordered "\n") ∧
      (NativeOrder.plan query store).1 = ⟨ordered "  ", true, some "sk"⟩ := by
  decide +kernel

end Statement

end ItemStore
