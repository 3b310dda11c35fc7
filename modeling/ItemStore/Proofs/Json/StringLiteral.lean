import ItemStore.Proofs.Json.StringGrammar

/-! # Texts between quotes

A text between double quotes is a string as JSON writes them if it follows the grammar of what may
stand in one, and if all its characters stand for themselves, it is read as itself.
-/
namespace ItemStore.Json
open Text (Symbol symbolsOf)

def IsLiteral (text : String) : Prop := ∃ value, Written.read? (symbolsOf text) = some (.string value)

def betweenQuotes (text : String) : String := "\"" ++ text ++ "\""

theorem symbolsOf_append (front back : String) :
    symbolsOf (front ++ back) = symbolsOf front ++ symbolsOf back := by
  simp [symbolsOf]

theorem symbolsOf_betweenQuotes (text : String) :
    symbolsOf (betweenQuotes text) = some '"' :: (symbolsOf text ++ [some '"']) := by
  rw [betweenQuotes, symbolsOf_append, symbolsOf_append]
  rfl

theorem read?_quote (text : List Symbol) {w : Written} :
    Written.read? (some '"' :: text) = some w ↔
      ∃ value rest, readString? (text.length + 1) (some []) text = some (value, rest) ∧
        skipSpaces rest = [] ∧ w = .string value := by
  have hvalue (fuel : Nat) : readValue? (fuel + 1) (some '"' :: text) =
      (readString? (text.length + 1) (some []) text).map fun read => (.string read.1, read.2) := rfl
  rw [Written.read?, hvalue]
  cases readString? (text.length + 1) (some []) text with
  | none => simp
  | some read =>
    obtain ⟨value, rest⟩ := read
    simp only [Option.map_some, List.isEmpty_iff]
    constructor
    · intro h
      split at h
      · next hend => exact ⟨value, rest, rfl, hend, (Option.some.inj h).symm⟩
      · cases h
    · rintro ⟨_, _, ⟨⟩, hend, rfl⟩
      rw [if_pos hend]

theorem isLiteral_betweenQuotes (text : String) :
    IsLiteral (betweenQuotes text) ↔ StringBody (symbolsOf text) := by
  rw [IsLiteral, symbolsOf_betweenQuotes]
  simp only [read?_quote]
  constructor
  · rintro ⟨_, value, rest, hread, hend, -⟩
    obtain ⟨body, hbody, htext⟩ := inString_of_readString? hread
    -- what stands behind the closing quote would end with a quote, which is no blank
    cases rest with
    | nil => exact List.append_cancel_right htext ▸ hbody
    | cons s rest =>
      have hlast : (s :: rest).getLast? = some (some '"') := by
        have hsame := congrArg List.getLast? htext
        simpa [List.getLast?_append] using hsame.symm
      obtain ⟨spaces, hspaces, hrest⟩ := exists_spaces_append (s :: rest)
      rw [hrest, hend, List.append_nil] at hlast
      obtain ⟨c, hc, hquote⟩ := List.mem_map.mp (List.mem_of_getLast? hlast)
      obtain rfl := Option.some.inj hquote
      cases hspaces _ hc
  · intro hbody
    have hfuel : (symbolsOf text).length < (symbolsOf text ++ [some '"']).length + 1 := by
      rw [List.length_append]
      omega
    obtain ⟨value, hread⟩ := exists_readString?_eq hbody [] hfuel (some [])
    exact ⟨value, value, [], hread, rfl, rfl⟩

theorem readString?_of_isPlain {cs : List Char} (hcs : ∀ c ∈ cs, IsPlain (some c)) {fuel : Nat}
    (hfuel : cs.length < fuel) (taken : List Char) (rest : List Symbol) :
    readString? fuel (some taken) (cs.map some ++ some '"' :: rest) =
      some (some (String.ofList (taken.reverse ++ cs)), rest) := by
  induction cs generalizing fuel taken with
  | nil =>
    obtain ⟨fuel, rfl⟩ := Nat.exists_eq_succ_of_ne_zero (Nat.ne_of_gt hfuel)
    rw [List.append_nil]
    rfl
  | cons c cs ih =>
    obtain ⟨fuel, rfl⟩ := Nat.exists_eq_succ_of_ne_zero (Nat.ne_zero_of_lt hfuel)
    obtain ⟨hc, hcs⟩ := List.forall_mem_cons.mp hcs
    rw [List.map_cons, List.cons_append, readString?_plain hc, Option.bind_some, Option.map_some,
      ih hcs (Nat.lt_of_succ_lt_succ hfuel), List.reverse_cons, List.append_assoc,
      List.singleton_append]

theorem parse?_betweenQuotes {text : String} (h : ∀ c ∈ text.toList, IsPlain (some c)) :
    parse? (betweenQuotes text) = some (.string text) := by
  have hfuel : text.toList.length < (text.toList.map some ++ [some '"']).length + 1 := by
    rw [List.length_append, List.length_map]
    omega
  have hread : Written.read? (symbolsOf (betweenQuotes text)) = some (.string (some text)) := by
    rw [symbolsOf_betweenQuotes, read?_quote]
    refine ⟨some text, [], ?_, rfl, rfl⟩
    rw [symbolsOf, readString?_of_isPlain h hfuel, List.reverse_nil, List.nil_append,
      String.ofList_toList]
  rw [parse?, hread]
  rfl

end ItemStore.Json
