import ItemStore.Frame.Decode
import ItemStore.Proofs.Json.NumberRange
import ItemStore.Proofs.Number.Finiteness
import ItemStore.Proofs.Number.ShortestText

/-! # Readable values

A value is readable if everything in it has a plain JSON form and every number text in it is accepted
as a finite number. That the value itself has a plain JSON form is enough, as nothing in it is left
out there. The natural value of a JSON value is readable, however deep it is nested.
-/
namespace ItemStore
open Number (Binary64 readInt64? readFloat? intText)

theorem Failure.exists_mapM_iff {α β : Type} {f : α → Except Failure β} {P : β → Prop} (l : List α) :
    (∃ bs, l.mapM f = .ok bs ∧ ∀ b ∈ bs, P b) ↔ ∀ a ∈ l, ∃ b, f a = .ok b ∧ P b := by
  induction l with
  | nil => simp [pure, Except.pure]
  | cons a rest ih =>
    rw [List.forall_mem_cons, ← ih, List.mapM_cons]
    constructor
    · rintro ⟨bs, hbs, hP⟩
      obtain ⟨b, hb, hrest⟩ := Failure.bind_eq_ok_iff.mp hbs
      obtain ⟨others, hothers, hcons⟩ := Failure.bind_eq_ok_iff.mp hrest
      cases hcons
      rw [List.forall_mem_cons] at hP
      exact ⟨⟨b, hb, hP.1⟩, others, hothers, hP.2⟩
    · rintro ⟨⟨b, hb, hfirst⟩, others, hothers, hP⟩
      refine ⟨b :: others, ?_, List.forall_mem_cons.mpr ⟨hfirst, hP⟩⟩
      rw [hb, hothers]
      rfl

/-! ### Number texts -/

/-- The text is accepted as a number, and the number is finite. -/
def JsonNumber.Accepted (text : String) : Prop := ∃ n, ofText text = .ok n ∧ n.InRange

namespace JsonNumber
variable {text : String} {n : JsonNumber}

theorem inRange_of_readInt64? {i : Int} (h : readInt64? text.toList = some i) :
    (JsonNumber.int i).InRange := by
  have hfits := Number.fitsInt64_of_readInt64? h
  unfold Number.fitsInt64 Number.int64Max at hfits
  unfold InRange Number.nat64Max
  grind

theorem accepted_of_readFloat? {x : Binary64} (hread : readFloat? text.toList = some x)
    (hfinite : x.isFinite = true) : Accepted text := by
  unfold Accepted ofText
  rw [hread]
  cases hint : readInt64? text.toList with
  | none => exact ⟨.float x, rfl, hfinite⟩
  | some i => exact ⟨.int i, rfl, inRange_of_readInt64? hint⟩

theorem isFinite_toFloat (h : n.InRange) : n.toFloat.isFinite = true := by
  cases n with
  | int i => exact Binary64.isFinite_ofInt h.1 h.2
  | float x => exact h

theorem accepted_intText {i : Int} (h : (JsonNumber.int i).InRange) :
    Accepted (String.ofList (intText i)) := by
  refine accepted_of_readFloat? ?_ (isFinite_toFloat h)
  rw [String.toList_ofList]
  exact Number.readFloat?_intText i

theorem accepted_plainNumeral (h : n.InRange) : Accepted (String.ofList (Value.plainNumeral n)) := by
  cases n with
  | int i => exact accepted_intText h
  | float x =>
    refine accepted_of_readFloat? ?_ h
    rw [String.toList_ofList]
    exact Binary64.readFloat?_text x

theorem accepted_trimmedText (h : n.InRange) : Accepted (String.ofList n.trimmedText) := by
  unfold trimmedText
  split
  · next i hint =>
    have hn : n = .int i := by
      cases n <;> simp_all [int64?]
    exact accepted_intText (hn ▸ h)
  · obtain ⟨y, hread, hfinite⟩ := Binary64.exists_readFloat?_trimmedText (isFinite_toFloat h)
    refine accepted_of_readFloat? ?_ hfinite
    rw [String.toList_ofList]
    exact hread

end JsonNumber

namespace Value
variable {v part : Value}

/-! ### Plain JSON -/

def HasPlainJson (v : Value) : Prop := ∃ json, v.toJson = .ok json ∧ json.InRange

/-- The plain form of a number text is the number that it is accepted as, if that is finite. -/
theorem numberToJson_eq_ok_iff {text : String} {json : Json} :
    numberToJson text = .ok json ↔
      ∃ n, JsonNumber.ofText text = .ok n ∧ n.InRange ∧ json = .number n := by
  unfold numberToJson JsonNumber.ofText
  cases hint : readInt64? text.toList with
  | some i =>
    have hi := JsonNumber.inRange_of_readInt64? hint
    constructor
    · intro h
      cases h
      exact ⟨.int i, rfl, hi, rfl⟩
    · rintro ⟨n, h, -, rfl⟩
      cases h
      rfl
  | none =>
    cases hfloat : readFloat? text.toList with
    | none => simp
    | some x =>
      by_cases hx : x.isFinite = true
      · simpa [hx, JsonNumber.InRange] using eq_comm
      · simp [hx, JsonNumber.InRange]

theorem numbersToJson_eq_mapM (texts : List String) :
    numbersToJson texts = texts.mapM numberToJson := by
  induction texts with
  | nil => rfl
  | cons text rest ih =>
    rw [List.mapM_cons, ← ih]
    rfl

theorem toJsonItems_eq_mapM (items : List Value) : toJsonItems items = items.mapM toJson := by
  induction items with
  | nil => rfl
  | cons item rest ih =>
    rw [List.mapM_cons, ← ih]
    rfl

theorem toJsonEntries_eq_mapM (entries : List (String × Value)) :
    toJsonEntries entries = entries.mapM fun entry => entry.2.toJson.map (entry.1, ·) := by
  induction entries with
  | nil => rfl
  | cons entry rest ih =>
    rw [List.mapM_cons, ← ih, toJsonEntries]
    cases entry.2.toJson <;> rfl

theorem hasPlainJson_number_iff {text : String} :
    (number text).HasPlainJson ↔ JsonNumber.Accepted text := by
  constructor
  · rintro ⟨json, hjson, -⟩
    obtain ⟨n, hn, hrange, -⟩ := numberToJson_eq_ok_iff.mp hjson
    exact ⟨n, hn, hrange⟩
  · rintro ⟨n, hn, hrange⟩
    exact ⟨.number n, numberToJson_eq_ok_iff.mpr ⟨n, hn, hrange, rfl⟩, .number hrange⟩

theorem hasPlainJson_array_iff {elements : Except Failure (List Json)}
    (h : v.toJson = elements.map .array) :
    v.HasPlainJson ↔ ∃ js, elements = .ok js ∧ ∀ j ∈ js, j.InRange := by
  unfold HasPlainJson
  rw [h]
  constructor
  · rintro ⟨json, hjson, hrange⟩
    obtain ⟨js, hjs, rfl⟩ := Failure.map_eq_ok_iff.mp hjson
    cases hrange with
    | array hrange => exact ⟨js, hjs, hrange⟩
  · rintro ⟨js, rfl, hrange⟩
    exact ⟨.array js, rfl, .array hrange⟩

theorem hasPlainJson_numberSet_iff {items : List String} :
    (numberSet items).HasPlainJson ↔ ∀ text ∈ items, JsonNumber.Accepted text := by
  rw [hasPlainJson_array_iff rfl, numbersToJson_eq_mapM, Failure.exists_mapM_iff]
  exact forall₂_congr fun text _ => hasPlainJson_number_iff

theorem hasPlainJson_list_iff {items : List Value} :
    (list items).HasPlainJson ↔ ∀ item ∈ items, item.HasPlainJson := by
  rw [hasPlainJson_array_iff rfl, toJsonItems_eq_mapM, Failure.exists_mapM_iff]
  rfl

theorem hasPlainJson_map_iff {entries : List (String × Value)} :
    (map entries).HasPlainJson ↔ ∀ entry ∈ entries, entry.2.HasPlainJson := by
  have hentry (entry : String × Value) :
      (∃ field, entry.2.toJson.map (entry.1, ·) = .ok field ∧ field.2.InRange) ↔
        entry.2.HasPlainJson := by
    constructor
    · rintro ⟨field, hfield, hrange⟩
      obtain ⟨json, hjson, rfl⟩ := Failure.map_eq_ok_iff.mp hfield
      exact ⟨json, hjson, hrange⟩
    · rintro ⟨json, hjson, hrange⟩
      exact ⟨(entry.1, json), Failure.map_eq_ok_iff.mpr ⟨json, hjson, rfl⟩, hrange⟩
  rw [← forall₂_congr fun entry _ => hentry entry, ← Failure.exists_mapM_iff, ← toJsonEntries_eq_mapM]
  constructor
  · rintro ⟨json, hjson, hrange⟩
    obtain ⟨fields, hfields, rfl⟩ := Failure.map_eq_ok_iff.mp hjson
    cases hrange with
    | object hrange => exact ⟨fields, hfields, fun field hmem => hrange field.1 field.2 hmem⟩
  · rintro ⟨fields, hfields, hrange⟩
    refine ⟨.object fields, Failure.map_eq_ok_iff.mpr ⟨fields, hfields, rfl⟩, .object ?_⟩
    intro name json hmem
    exact hrange (name, json) hmem

/-! ### Parts -/

/-- What stands in a value at any depth, the value itself included. -/
inductive Part (part : Value) : Value → Prop
  | self : Part part part
  | item {items : List Value} {item : Value} (hmem : item ∈ items) (h : Part part item) :
      Part part (.list items)
  | entry {entries : List (String × Value)} {entry : String × Value} (hmem : entry ∈ entries)
      (h : Part part entry.2) : Part part (.map entries)

/-- The number texts of a value, less those that stand in its items and entries. -/
def numerals : Value → List String
  | .number text => [text]
  | .numberSet items => items
  | _ => []

/-- Each part has a plain JSON form, and each number text is accepted as a finite number. -/
structure Readable (v : Value) : Prop where
  plain : ∀ part, Part part v → part.HasPlainJson
  accepted : ∀ part, Part part v → ∀ text ∈ part.numerals, JsonNumber.Accepted text

theorem Part.hasPlainJson (h : Part part v) (hv : v.HasPlainJson) : part.HasPlainJson := by
  induction h with
  | self => exact hv
  | item hmem _ ih => exact ih (hasPlainJson_list_iff.mp hv _ hmem)
  | entry hmem _ ih => exact ih (hasPlainJson_map_iff.mp hv _ hmem)

theorem HasPlainJson.accepted (h : v.HasPlainJson) : ∀ text ∈ v.numerals, JsonNumber.Accepted text := by
  cases v with
  | number text => simpa [numerals] using hasPlainJson_number_iff.mp h
  | numberSet items => exact hasPlainJson_numberSet_iff.mp h
  | _ => simp [numerals]

theorem HasPlainJson.readable (h : v.HasPlainJson) : v.Readable where
  plain _ hpart := hpart.hasPlainJson h
  accepted _ hpart := (hpart.hasPlainJson h).accepted

/-! ### Natural values -/

theorem ofJsonItemsWith_eq_map (numeral : JsonNumber → List Char) (items : List Json) :
    ofJsonItemsWith numeral items = items.map (ofJsonWith numeral) := by
  induction items with
  | nil => rfl
  | cons item rest ih => rw [ofJsonItemsWith, ih, List.map_cons]

theorem ofJsonFieldsWith_eq_map (numeral : JsonNumber → List Char) (fields : List (String × Json)) :
    ofJsonFieldsWith numeral fields =
      fields.map fun field => (field.1, ofJsonWith numeral field.2) := by
  induction fields with
  | nil => rfl
  | cons field rest ih => rw [ofJsonFieldsWith, ih, List.map_cons]

theorem hasPlainJson_marshal {json : Json} (h : json.InRange) : (marshal json).HasPlainJson := by
  induction h with
  | null => exact ⟨_, rfl, .null⟩
  | bool b => exact ⟨_, rfl, .bool b⟩
  | number h => exact hasPlainJson_number_iff.mpr (JsonNumber.accepted_plainNumeral h)
  | string s => exact ⟨_, rfl, .string s⟩
  | array _ ih =>
    rw [marshal, ofJsonWith, hasPlainJson_list_iff, ofJsonItemsWith_eq_map, List.forall_mem_map]
    exact ih
  | object _ ih =>
    rw [marshal, ofJsonWith, hasPlainJson_map_iff, ofJsonFieldsWith_eq_map, List.forall_mem_map]
    rintro ⟨name, json⟩ hmem
    exact ih name json hmem

end Value

end ItemStore
