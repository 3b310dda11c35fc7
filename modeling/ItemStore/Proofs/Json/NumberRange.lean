import ItemStore.Proofs.Json.ReaderSteps

/-! # The range of numbers

An integer of a JSON value fits into 64 bits with or without a sign, and a float is finite. Whatever
the reader takes from a text is written with such numbers.
-/
namespace ItemStore

namespace JsonNumber
open Number (int64Min nat64Max)

def InRange : JsonNumber → Prop
  | .int i => int64Min ≤ i ∧ i ≤ nat64Max
  | .float x => x.isFinite = true

end JsonNumber

namespace Json

/-- Every number of the value is in range. -/
inductive InRange : Json → Prop
  | null : InRange .null
  | bool (b : Bool) : InRange (.bool b)
  | number {n : JsonNumber} (h : n.InRange) : InRange (.number n)
  | string (s : String) : InRange (.string s)
  | array {items : List Json} (h : ∀ item ∈ items, InRange item) : InRange (.array items)
  | object {fields : List (String × Json)} (h : ∀ name value, (name, value) ∈ fields → InRange value) :
      InRange (.object fields)

namespace Written

inductive InRange : Written → Prop
  | null : InRange .null
  | bool (b : Bool) : InRange (.bool b)
  | number {n : Option JsonNumber} (h : ∀ number ∈ n, number.InRange) : InRange (.number n)
  | string (s : Option String) : InRange (.string s)
  | array {items : List Written} (h : ∀ item ∈ items, InRange item) : InRange (.array items)
  | openArray {items : List Written} (h : ∀ item ∈ items, InRange item) : InRange (.openArray items)
  | object {members : List (Option String × Written)}
      (h : ∀ name value, (name, value) ∈ members → InRange value) : InRange (.object members)

end Written

open Text (Symbol)

theorem numeralValue?_inRange {negative : Bool} {whole fraction : List Char} {exponent : Option Int}
    {number : JsonNumber} (h : numeralValue? negative whole fraction exponent = some number) :
    number.InRange := by
  unfold numeralValue? at h
  grind [JsonNumber.InRange]

theorem readNumeral?_inRange {text rest : List Symbol} {w : Written}
    (h : readNumeral? text = some (w, rest)) : w.InRange := by
  have hend {negative : Bool} {whole fraction : List Char} {text : List Symbol}
      (h : ((readExponent? text).bind fun read =>
        some (Written.number (numeralValue? negative whole fraction read.1), read.2)) =
          some (w, rest)) :
      w.InRange := by
    obtain ⟨read, -, hsome⟩ := Option.bind_eq_some_iff.mp h
    cases hsome
    exact .number fun number hnumber => numeralValue?_inRange hnumber
  unfold readNumeral? at h
  dsimp only at h
  -- With a minus before the digits and without.
  split at h
  all_goals
    split at h
    · cases h
    split at h
    · split at h
      · cases h
      · exact hend h
    · exact hend h

/-- By induction on the steps that are left, for values, items and members at once. -/
theorem read_inRange (fuel : Nat) :
    (∀ text w rest, readValue? fuel text = some (w, rest) → w.InRange) ∧
    (∀ text items rest, readItems? fuel text = some (items, rest) → ∀ item ∈ items, item.InRange) ∧
    ∀ text members rest, readMembers? fuel text = some (members, rest) →
      ∀ name value, (name, value) ∈ members → value.InRange := by
  induction fuel with
  | zero =>
    refine ⟨?_, ?_, ?_⟩
    · intro text w rest h
      cases h
    · intro text items rest h
      cases h
    · intro text members rest h
      cases h
  | succ fuel ih =>
    obtain ⟨ihvalue, ihitems, ihmembers⟩ := ih
    refine ⟨?_, ?_, ?_⟩
    · intro text w rest h
      have hstep := valueStep_of_readValue? h
      generalize skipSpaces text = start at hstep
      cases hstep with
      | emptyObject => exact .object (by simp)
      | object hmembers => exact .object (ihmembers _ _ _ hmembers)
      | emptyArray => exact .array (by simp)
      | array hitems => exact .array (ihitems _ _ _ hitems)
      | string => exact .string _
      | null => exact .null
      | true => exact .bool true
      | false => exact .bool false
      | number hnumeral => exact readNumeral?_inRange hnumeral
    · intro text items rest h
      cases itemsStep_of_readItems? h with
      | last hitem => simpa using ihvalue _ _ _ hitem
      | more hitem _ hitems => simpa using ⟨ihvalue _ _ _ hitem, ihitems _ _ _ hitems⟩
    · intro text members rest h name value hmem
      have hstep := membersStep_of_readMembers? h
      generalize skipSpaces text = start at hstep
      cases hstep with
      | last _ _ hvalue =>
        cases List.mem_singleton.mp hmem
        exact ihvalue _ _ _ hvalue
      | more _ _ hvalue _ hmembers =>
        rcases List.mem_cons.mp hmem with heq | hmem
        · cases heq
          exact ihvalue _ _ _ hvalue
        · exact ihmembers _ _ _ hmembers name value hmem

theorem Written.inRange_of_read? {text : List Symbol} {w : Written}
    (h : Written.read? text = some w) : w.InRange := by
  unfold Written.read? at h
  split at h
  · next written rest hread =>
    split at h
    · cases h
      exact (read_inRange _).1 _ _ _ hread
    · cases h
  · cases h

end Json

end ItemStore
