import ItemStore.Proofs.Number.ExponentText
import ItemStore.Proofs.Value.Readable

/-! # JSON values through the store and back

A JSON value is kept as its natural store value, numbers as texts. It is turned back as it was, all
fields in their places, if each number is read back from its text: an integer of 64 bits as the
integer, and a float as the same float, because its text is never the one of an integer. How floats
are written is all that the two natural values of a JSON value can differ in.
-/
namespace ItemStore

namespace Json

inductive AllNumbers (kind : JsonNumber → Prop) : Json → Prop
  | null : AllNumbers kind .null
  | bool (b : Bool) : AllNumbers kind (.bool b)
  | number {n : JsonNumber} (h : kind n) : AllNumbers kind (.number n)
  | string (s : String) : AllNumbers kind (.string s)
  | array {items : List Json} (h : ∀ item ∈ items, AllNumbers kind item) : AllNumbers kind (.array items)
  | object {fields : List (String × Json)}
      (h : ∀ name value, (name, value) ∈ fields → AllNumbers kind value) : AllNumbers kind (.object fields)

end Json

namespace JsonNumber

def IsInt64 (n : JsonNumber) : Prop := ∃ i, n = .int i ∧ Number.fitsInt64 i = true

def IsFiniteFloat (n : JsonNumber) : Prop := ∃ x, n = .float x ∧ x.isFinite = true

end JsonNumber

theorem Failure.mapM_map_eq_ok {α β : Type} {f : β → Except Failure α} {g : α → β} {l : List α}
    (h : ∀ a ∈ l, f (g a) = .ok a) : (l.map g).mapM f = .ok l := by
  induction l with
  | nil => rfl
  | cons a rest ih =>
    rw [List.forall_mem_cons] at h
    rw [List.map_cons, List.mapM_cons, h.1, ih h.2]
    rfl

namespace Value
variable {json : Json} {kind : JsonNumber → Prop} {numeral numeral' : JsonNumber → List Char}

/-! ### Numbers -/

theorem numberToJson_intText {i : Int} (h : Number.fitsInt64 i = true) :
    numberToJson (String.ofList (Number.intText i)) = .ok (.number (.int i)) := by
  rw [numberToJson, String.toList_ofList, Number.readInt64?_intText, if_pos h]
  rfl

/-- The text of a float in a document has a point or an exponent, so it is not taken as an integer. -/
theorem numberToJson_document {x : Number.Binary64} (h : x.isFinite = true) :
    numberToJson (String.ofList (x.text .document)) = .ok (.number (.float x)) := by
  obtain ⟨hint, hfloat⟩ := Number.Binary64.read_document h
  rw [numberToJson, String.toList_ofList, hint, hfloat]
  exact if_pos h

/-! ### Values -/

theorem toJson_ofJsonWith
    (hnumber : ∀ n, kind n → numberToJson (String.ofList (numeral n)) = .ok (.number n))
    (h : json.AllNumbers kind) : (ofJsonWith numeral json).toJson = .ok json := by
  induction h with
  | null => rfl
  | bool b => rfl
  | string s => rfl
  | number h => exact hnumber _ h
  | @array items _ ih =>
    rw [ofJsonWith, ofJsonItemsWith_eq_map, toJson, toJsonItems_eq_mapM, Failure.mapM_map_eq_ok ih]
    rfl
  | @object fields _ ih =>
    have hfield : ∀ field ∈ fields,
        (ofJsonWith numeral field.2).toJson.map (field.1, ·) = .ok field := by
      rintro ⟨name, value⟩ hmem
      rw [ih name value hmem]
      rfl
    rw [ofJsonWith, ofJsonFieldsWith_eq_map, toJson, toJsonEntries_eq_mapM,
      Failure.mapM_map_eq_ok hfield]
    rfl

theorem ofJsonWith_congr (hnumber : ∀ n, kind n → numeral n = numeral' n) (h : json.AllNumbers kind) :
    ofJsonWith numeral json = ofJsonWith numeral' json := by
  induction h with
  | null => rfl
  | bool b => rfl
  | string s => rfl
  | number h => exact congrArg (fun text => number (String.ofList text)) (hnumber _ h)
  | array _ ih =>
    rw [ofJsonWith, ofJsonWith, ofJsonItemsWith_eq_map, ofJsonItemsWith_eq_map,
      List.map_congr_left ih]
  | object _ ih =>
    rw [ofJsonWith, ofJsonWith, ofJsonFieldsWith_eq_map, ofJsonFieldsWith_eq_map]
    refine congrArg map (List.map_congr_left ?_)
    rintro ⟨name, value⟩ hmem
    rw [ih name value hmem]

/-- A JSON value of 64-bit integers and finite floats is turned back from its natural store value as
it was, with the fields of every object in their order. With integers alone, the other natural value
is the same. -/
theorem ofJson_roundTrip (json : Json) :
    (json.AllNumbers (fun n => n.IsInt64 ∨ n.IsFiniteFloat) → (ofJson json).toJson = .ok json) ∧
      (json.AllNumbers JsonNumber.IsInt64 → ofJson json = marshal json) := by
  constructor
  · refine toJson_ofJsonWith ?_
    rintro n (⟨i, rfl, hfits⟩ | ⟨x, rfl, hfinite⟩)
    · exact numberToJson_intText hfits
    · exact numberToJson_document hfinite
  · refine ofJsonWith_congr ?_
    rintro n ⟨i, rfl, -⟩
    rfl

/-- A whole float stays apart from the integer. -/
theorem ofJson_roundTrip_whole_float :
    (ofJson (.object [("b", .array [.number (.float (.ofInt 1)), .ofInt 1]), ("a", .null)])).toJson =
        .ok (.object [("b", .array [.number (.float (.ofInt 1)), .ofInt 1]), ("a", .null)]) ∧
      ofJson (.object [("b", .array [.ofInt (-1)])]) = marshal (.object [("b", .array [.ofInt (-1)])]) := by
  have hone : JsonNumber.IsFiniteFloat (.float (.ofInt 1)) :=
    ⟨_, rfl, Number.Binary64.isFinite_ofInt (by decide) (by decide)⟩
  have hint (i : Int) (h : Number.fitsInt64 i = true) : JsonNumber.IsInt64 (.int i) := ⟨i, rfl, h⟩
  constructor
  · refine (ofJson_roundTrip _).1 (.object ?_)
    simp only [List.mem_cons, Prod.mk.injEq, List.not_mem_nil, or_false]
    rintro name value (⟨-, rfl⟩ | ⟨-, rfl⟩)
    · exact .array (by simpa using ⟨.number (.inr hone), .number (.inl (hint 1 rfl))⟩)
    · exact .null
  · refine (ofJson_roundTrip _).2 (.object ?_)
    simp only [List.mem_cons, Prod.mk.injEq, List.not_mem_nil, or_false]
    rintro name value ⟨-, rfl⟩
    exact .array (by simpa using .number (hint (-1) rfl))

end Value

end ItemStore
