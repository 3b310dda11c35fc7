import ItemStore.Json.Reader

/-! # Steps of the reader

What the reader of JSON texts can do in one step, for values, items and members. What holds of every
reading is proved by induction on the number of steps, with one case for each of these.
-/
namespace ItemStore.Json
open Text (Symbol)

/-- What a value is read from, if no blank stands before it. -/
inductive ValueStep (fuel : Nat) : List Symbol → Written → List Symbol → Prop
  | emptyObject {text rest : List Symbol} (hclose : skipSpaces text = some '\x7d' :: rest) :
      ValueStep fuel (some '\x7b' :: text) (.object []) rest
  | object {text rest : List Symbol} {members : List (Option String × Written)}
      (hmembers : readMembers? fuel (skipSpaces text) = some (members, rest)) :
      ValueStep fuel (some '\x7b' :: text) (.object members) rest
  | emptyArray {text rest : List Symbol} (hclose : skipSpaces text = some ']' :: rest) :
      ValueStep fuel (some '[' :: text) (.array []) rest
  | array {text rest : List Symbol} {items : List Written}
      (hitems : readItems? fuel (skipSpaces text) = some (items, rest)) :
      ValueStep fuel (some '[' :: text) (.array items) rest
  | string {text rest : List Symbol} {s : Option String}
      (hstring : readString? (text.length + 1) (some []) text = some (s, rest)) :
      ValueStep fuel (some '"' :: text) (.string s) rest
  | null (rest : List Symbol) : ValueStep fuel (['n', 'u', 'l', 'l'].map some ++ rest) .null rest
  | true (rest : List Symbol) : ValueStep fuel (['t', 'r', 'u', 'e'].map some ++ rest) (.bool true) rest
  | false (rest : List Symbol) :
      ValueStep fuel (['f', 'a', 'l', 's', 'e'].map some ++ rest) (.bool false) rest
  | number {text rest : List Symbol} {w : Written} (hnumeral : readNumeral? text = some (w, rest)) :
      ValueStep fuel text w rest

inductive ItemsStep (fuel : Nat) : List Symbol → List Written → List Symbol → Prop
  | last {text after rest : List Symbol} {item : Written}
      (hitem : readValue? fuel text = some (item, after))
      (hclose : skipSpaces after = some ']' :: rest) : ItemsStep fuel text [item] rest
  | more {text after others rest : List Symbol} {item : Written} {items : List Written}
      (hitem : readValue? fuel text = some (item, after))
      (hcomma : skipSpaces after = some ',' :: others)
      (hitems : readItems? fuel others = some (items, rest)) : ItemsStep fuel text (item :: items) rest

inductive MembersStep (fuel : Nat) :
    List Symbol → List (Option String × Written) → List Symbol → Prop
  | last {text colon value after rest : List Symbol} {name : Option String} {w : Written}
      (hname : readString? (text.length + 1) (some []) text = some (name, colon))
      (hcolon : skipSpaces colon = some ':' :: value)
      (hvalue : readValue? fuel value = some (w, after))
      (hclose : skipSpaces after = some '\x7d' :: rest) :
      MembersStep fuel (some '"' :: text) [(name, w)] rest
  | more {text colon value after others rest : List Symbol} {name : Option String} {w : Written}
      {members : List (Option String × Written)}
      (hname : readString? (text.length + 1) (some []) text = some (name, colon))
      (hcolon : skipSpaces colon = some ':' :: value)
      (hvalue : readValue? fuel value = some (w, after))
      (hcomma : skipSpaces after = some ',' :: others)
      (hmembers : readMembers? fuel others = some (members, rest)) :
      MembersStep fuel (some '"' :: text) ((name, w) :: members) rest

variable {fuel : Nat} {text rest : List Symbol}

theorem valueStep_of_readValue? {w : Written} (h : readValue? (fuel + 1) text = some (w, rest)) :
    ValueStep fuel (skipSpaces text) w rest := by
  rw [readValue?] at h
  split at h
  · next more hbrace =>
    rw [hbrace]
    split at h
    · next hclose =>
      cases h
      exact .emptyObject hclose
    · obtain ⟨read, hmembers, heq⟩ := Option.map_eq_some_iff.mp h
      cases heq
      exact .object hmembers
  · next more hbracket =>
    rw [hbracket]
    split at h
    · next hclose =>
      cases h
      exact .emptyArray hclose
    · obtain ⟨read, hitems, heq⟩ := Option.map_eq_some_iff.mp h
      cases heq
      exact .array hitems
  · next more hquote =>
    rw [hquote]
    obtain ⟨read, hstring, heq⟩ := Option.map_eq_some_iff.mp h
    cases heq
    exact .string hstring
  · next hword =>
    cases h
    rw [hword]
    exact .null rest
  · next hword =>
    cases h
    rw [hword]
    exact .true rest
  · next hword =>
    cases h
    rw [hword]
    exact .false rest
  · exact .number h

theorem itemsStep_of_readItems? {items : List Written}
    (h : readItems? (fuel + 1) text = some (items, rest)) : ItemsStep fuel text items rest := by
  rw [readItems?] at h
  obtain ⟨⟨item, after⟩, hitem, h⟩ := Option.bind_eq_some_iff.mp h
  dsimp only at h
  split at h
  · next more hcomma =>
    obtain ⟨⟨others, last⟩, hothers, h⟩ := Option.bind_eq_some_iff.mp h
    cases h
    exact .more hitem hcomma hothers
  · next hclose =>
    cases h
    exact .last hitem hclose
  · cases h

theorem membersStep_of_readMembers? {members : List (Option String × Written)}
    (h : readMembers? (fuel + 1) text = some (members, rest)) :
    MembersStep fuel (skipSpaces text) members rest := by
  rw [readMembers?] at h
  split at h
  · next more hquote =>
    rw [hquote]
    obtain ⟨⟨name, colon⟩, hname, h⟩ := Option.bind_eq_some_iff.mp h
    dsimp only at h
    split at h
    · next value hcolon =>
      obtain ⟨⟨w, after⟩, hvalue, h⟩ := Option.bind_eq_some_iff.mp h
      dsimp only at h
      split at h
      · next others hcomma =>
        obtain ⟨⟨rest, last⟩, hothers, h⟩ := Option.bind_eq_some_iff.mp h
        cases h
        exact .more hname hcolon hvalue hcomma hothers
      · next hclose =>
        cases h
        exact .last hname hcolon hvalue hclose
      · cases h
    · cases h
  · cases h

end ItemStore.Json
