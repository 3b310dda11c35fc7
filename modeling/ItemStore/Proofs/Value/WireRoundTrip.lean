import ItemStore.Proofs.Json.Lossless
import ItemStore.Proofs.Text.Base64Text
import ItemStore.Value.Wire

/-! # Values to the wire and back

What is written for a value is read as that value, wherever as many levels are allowed as it is
deep. Conversely a JSON value that is read is written again as it was, up to the truth value of a
null: the text of a byte sequence determines and is determined by the bytes, and a map keeps the
first place and the last value of a name, as the JSON object does.
-/
namespace ItemStore

namespace Json

mutual

/-- The value with every null that is written with false written with true. -/
def nullsAsTrue : Json → Json
  | .object [("NULL", .bool false)] => .object [("NULL", .bool true)]
  | .object fields => .object (nullsAsTrueFields fields)
  | .array items => .array (nullsAsTrueItems items)
  | json => json

def nullsAsTrueItems : List Json → List Json
  | [] => []
  | v :: rest => nullsAsTrue v :: nullsAsTrueItems rest

def nullsAsTrueFields : List (String × Json) → List (String × Json)
  | [] => []
  | (name, v) :: rest => (name, nullsAsTrue v) :: nullsAsTrueFields rest

end

theorem nullsAsTrueFields_eq_map (fields : List (String × Json)) :
    nullsAsTrueFields fields = fields.map fun (name, v) => (name, v.nullsAsTrue) := by
  induction fields with
  | nil => rfl
  | cons field rest ih => rw [nullsAsTrueFields, ih, List.map_cons]

theorem nullsAsTrueItems_map {α : Type} {write : α → Json}
    (hkept : ∀ a, (write a).nullsAsTrue = write a) (items : List α) :
    nullsAsTrueItems (items.map write) = items.map write := by
  induction items with
  | nil => rfl
  | cons a rest ih => rw [List.map_cons, nullsAsTrueItems, hkept, ih]

theorem nullsAsTrue_object {fields : List (String × Json)}
    (h : fields ≠ [("NULL", .bool false)]) :
    (Json.object fields).nullsAsTrue = .object (nullsAsTrueFields fields) := by
  rw [nullsAsTrue]
  rintro rfl
  exact h rfl

theorem nullsAsTrue_tagged {tag : String} (h : tag ≠ "NULL") (content : Json) :
    (Json.object [(tag, content)]).nullsAsTrue = .object [(tag, content.nullsAsTrue)] := by
  rw [nullsAsTrue_object]
  · rfl
  · intro heq
    cases heq
    exact h rfl

end Json

namespace Value
open Json (Written Decoder)

mutual

def Distinct : Value → Prop
  | .map entries => (Entries.names entries).Nodup ∧ DistinctEntries entries
  | .list items => DistinctItems items
  | _ => True

def DistinctItems : List Value → Prop
  | [] => True
  | v :: rest => Distinct v ∧ DistinctItems rest

def DistinctEntries : List (String × Value) → Prop
  | [] => True
  | (_, v) :: rest => Distinct v ∧ DistinctEntries rest

end

/-! ### Reading what is written -/

theorem text_toWritten (levels : Nat) (s : String) :
    Decoder.text levels (Json.string s).toWritten = some s := rfl

theorem readBytes_iff {levels : Nat} {text : String} {bytes : List UInt8} :
    readBytes levels (Json.string text).toWritten = some bytes ↔ text = Base64.encodeText bytes := by
  change Base64.decodeText? text = some bytes ↔ text = Base64.encodeText bytes
  exact Base64.decodeText?_eq_some_iff

theorem readBytes_toWritten (levels : Nat) (bytes : List UInt8) :
    readBytes levels (Json.string (Base64.encodeText bytes)).toWritten = some bytes :=
  readBytes_iff.mpr rfl

theorem itemsDepth_map {α : Type} {write : α → Json} (hflat : ∀ a, (write a).depth = 0)
    (items : List α) : Json.itemsDepth (items.map write) = 0 := by
  induction items with
  | nil => rfl
  | cons a rest ih => simp [Json.itemsDepth, hflat, ih]

theorem mapM_toWrittenItems {α : Type} {read : Written → Option α} {write : α → Json}
    (hread : ∀ a, read (write a).toWritten = some a) (items : List α) :
    (Json.toWrittenItems (items.map write)).mapM read = some items := by
  induction items with
  | nil => rfl
  | cons a rest ih => simp [Json.toWrittenItems, hread, ih]

/-- The items of a set are read back on any level, so the set is wherever it may be an array. -/
theorem list_toWritten {α : Type} {read : Decoder α} {write : α → Json}
    (hread : ∀ levels a, read levels (write a).toWritten = some a)
    (hflat : ∀ a, (write a).depth = 0) (items : List α) (levels : Nat) :
    Decoder.list read levels (Json.array (items.map write)).toWritten =
      if (Json.array (items.map write)).depth ≤ levels then some items else none := by
  rw [Json.depth, itemsDepth_map hflat]
  cases levels with
  | zero => simp [Json.toWritten, Decoder.list]
  | succ levels => simp [Json.toWritten, Decoder.list, mapM_toWrittenItems (hread levels)]

/-- The tag takes one level. -/
theorem ofWire?_tagged {tag : String} {content : Json} {v : Value}
    (hcontent : ∀ levels, ofWire? (levels + 1) (.object [(some tag, content.toWritten)]) =
      if content.depth ≤ levels then some v else none) (levels : Nat) :
    ofWire? levels (Json.object [(tag, content)]).toWritten =
      if (Json.object [(tag, content)]).depth ≤ levels then some v else none := by
  cases levels with
  | zero => simp [Json.toWritten, Json.toWrittenMembers, Json.depth, ofWire?]
  | succ levels =>
    simpa [Json.toWritten, Json.toWrittenMembers, Json.depth, Json.fieldsDepth] using hcontent levels

mutual

/-- A value is read back from what is written for it exactly if it may be nested that deep. -/
theorem ofWire?_toWire {v : Value} (distinct : v.Distinct) (levels : Nat) :
    ofWire? levels v.toWire.toWritten = if v.toWire.depth ≤ levels then some v else none := by
  match v with
  | .string s | .number s =>
    apply ofWire?_tagged
    intro levels
    simp [ofWire?, Decoder.text, Json.toWritten, Json.depth]
  | .bool _ | .null =>
    apply ofWire?_tagged
    intro levels
    simp [ofWire?, Decoder.flag, Json.toWritten, Json.depth]
  | .binary bytes =>
    apply ofWire?_tagged
    intro levels
    simp [ofWire?, readBytes_toWritten, Json.depth]
  | .stringSet items | .numberSet items =>
    apply ofWire?_tagged
    intro levels
    have hitems := list_toWritten text_toWritten (fun _ => rfl) items levels
    rw [ofWire?, hitems]
    split <;> rfl
  | .binarySet items =>
    apply ofWire?_tagged
    intro levels
    have hitems := list_toWritten readBytes_toWritten (fun _ => rfl) items levels
    rw [ofWire?, hitems]
    split <;> rfl
  | .list items =>
    rw [Distinct] at distinct
    apply ofWire?_tagged
    intro levels
    cases levels with
    | zero => simp [ofWire?, Json.toWritten, Json.depth]
    | succ levels =>
      rw [Json.toWritten, Json.depth, ofWire?, ofWireItems?_toWireItems distinct]
      simp only [Nat.add_le_add_iff_right]
      split <;> rfl
  | .map entries =>
    rw [Distinct] at distinct
    apply ofWire?_tagged
    intro levels
    cases levels with
    | zero => simp [ofWire?, Json.toWritten, Json.depth]
    | succ levels =>
      rw [Json.toWritten, Json.depth, ofWire?, ofWireEntries?_toWireEntries distinct.2]
      simp only [Nat.add_le_add_iff_right]
      split
      · rw [Option.map_some, Entries.ofPairs_of_nodup distinct.1]
      · rfl

theorem ofWireItems?_toWireItems {items : List Value} (distinct : DistinctItems items)
    (levels : Nat) :
    ofWireItems? levels (Json.toWrittenItems (toWireItems items)) =
      if Json.itemsDepth (toWireItems items) ≤ levels then some items else none := by
  match items with
  | [] => simp [toWireItems, Json.toWrittenItems, Json.itemsDepth, ofWireItems?]
  | v :: rest =>
    rw [DistinctItems] at distinct
    rw [toWireItems, Json.toWrittenItems, ofWireItems?, Json.itemsDepth,
      ofWire?_toWire distinct.1, ofWireItems?_toWireItems distinct.2]
    exact Json.bind_ite_max _ _ _ _ _ _

theorem ofWireEntries?_toWireEntries {entries : List (String × Value)}
    (distinct : DistinctEntries entries) (levels : Nat) :
    ofWireEntries? levels (Json.toWrittenMembers (toWireEntries entries)) =
      if Json.fieldsDepth (toWireEntries entries) ≤ levels then some entries else none := by
  match entries with
  | [] => simp [toWireEntries, Json.toWrittenMembers, Json.fieldsDepth, ofWireEntries?]
  | (name, v) :: rest =>
    rw [DistinctEntries] at distinct
    rw [toWireEntries, Json.toWrittenMembers, ofWireEntries?, Json.fieldsDepth,
      ofWire?_toWire distinct.1, ofWireEntries?_toWireEntries distinct.2]
    exact Json.bind_ite_max _ _ _ _ _ _

end

/-! ### Writing what is read -/

theorem toWireEntries_eq_map (entries : List (String × Value)) :
    toWireEntries entries = entries.map fun (name, v) => (name, v.toWire) := by
  induction entries with
  | nil => rfl
  | cons entry rest ih => rw [toWireEntries, ih, List.map_cons]

theorem distinctEntries_iff {entries : List (String × Value)} :
    DistinctEntries entries ↔ ∀ entry ∈ entries, entry.2.Distinct := by
  induction entries with
  | nil => simp [DistinctEntries]
  | cons entry rest ih => simp [DistinctEntries, ih]

theorem value?_of_text {levels : Nat} {w : Written} {s : String}
    (h : Decoder.text levels w = some s) : w.value? levels = some (.string s) := by
  unfold Decoder.text at h
  split at h
  · rw [h, Written.value?, Option.map_some]
  · cases h

theorem value?_of_flag {levels : Nat} {w : Written} {b : Bool}
    (h : Decoder.flag levels w = some b) : w.value? levels = some (.bool b) := by
  unfold Decoder.flag at h
  split at h
  · cases h
    rw [Written.value?]
  · cases h

theorem value?_of_readBytes {levels : Nat} {w : Written} {bytes : List UInt8}
    (h : readBytes levels w = some bytes) :
    w.value? levels = some (.string (Base64.encodeText bytes)) := by
  obtain ⟨s, hs, hbytes⟩ := Option.bind_eq_some_iff.mp h
  rw [← Base64.decodeText?_eq_some_iff.mp hbytes]
  exact value?_of_text hs

theorem values?_of_mapM {α : Type} {read : Decoder α} {write : α → Json} {levels : Nat}
    (hread : ∀ w a, read levels w = some a → w.value? levels = some (write a))
    {items : List Written} {values : List α} (h : items.mapM (read levels) = some values) :
    Written.values? levels items = some (values.map write) := by
  induction items generalizing values with
  | nil =>
    cases h
    rfl
  | cons w rest ih =>
    simp only [List.mapM_cons, Option.bind_eq_bind, Option.bind_eq_some_iff] at h
    obtain ⟨a, ha, more, hmore, h⟩ := h
    cases h
    rw [Written.values?, hread w a ha, ih hmore]
    rfl

theorem value?_of_list {α : Type} {read : Decoder α} {write : α → Json} {levels : Nat}
    (hread : ∀ levels w a, read levels w = some a → w.value? levels = some (write a))
    {w : Written} {values : List α} (h : Decoder.list read levels w = some values) :
    w.value? levels = some (.array (values.map write)) := by
  unfold Decoder.list at h
  split at h
  · rw [Written.value?, values?_of_mapM (hread _) h, Option.map_some]
  · rw [Written.value?, values?_of_mapM (hread _) h, Option.map_some]
  · cases h

/-- The ways in which the content of a tag is read as a value. -/
inductive Reads : Nat → String → Written → Value → Prop
  | string {levels : Nat} {content : Written} {s : String}
      (h : Decoder.text levels content = some s) : Reads levels "S" content (.string s)
  | number {levels : Nat} {content : Written} {s : String}
      (h : Decoder.text levels content = some s) : Reads levels "N" content (.number s)
  | binary {levels : Nat} {content : Written} {bytes : List UInt8}
      (h : readBytes levels content = some bytes) : Reads levels "B" content (.binary bytes)
  | bool {levels : Nat} {content : Written} {b : Bool}
      (h : Decoder.flag levels content = some b) : Reads levels "BOOL" content (.bool b)
  | null {levels : Nat} {content : Written} {b : Bool}
      (h : Decoder.flag levels content = some b) : Reads levels "NULL" content .null
  | map {levels : Nat} {members : List (Option String × Written)} {entries : List (String × Value)}
      (h : ofWireEntries? levels members = some entries) :
      Reads (levels + 1) "M" (.object members) (.map (Entries.ofPairs entries))
  | list {levels : Nat} {items : List Written} {values : List Value}
      (h : ofWireItems? levels items = some values) :
      Reads (levels + 1) "L" (.array items) (.list values)
  | stringSet {levels : Nat} {content : Written} {items : List String}
      (h : Decoder.list Decoder.text levels content = some items) :
      Reads levels "SS" content (.stringSet items)
  | numberSet {levels : Nat} {content : Written} {items : List String}
      (h : Decoder.list Decoder.text levels content = some items) :
      Reads levels "NS" content (.numberSet items)
  | binarySet {levels : Nat} {content : Written} {items : List (List UInt8)}
      (h : Decoder.list readBytes levels content = some items) :
      Reads levels "BS" content (.binarySet items)

theorem reads_of_ofWire? {levels : Nat} {w : Written} {v : Value} (h : ofWire? levels w = some v) :
    ∃ inner tag content, levels = inner + 1 ∧ w = .object [(some tag, content)] ∧
      Reads inner tag content v := by
  unfold ofWire? at h
  split at h
  · rename_i tag content
    split at h
    · cases h
    · rename_i inner
      refine ⟨inner, tag, content, rfl, rfl, ?_⟩
      split at h
      · obtain ⟨s, hs, rfl⟩ := Option.map_eq_some_iff.mp h
        exact .string hs
      · obtain ⟨s, hs, rfl⟩ := Option.map_eq_some_iff.mp h
        exact .number hs
      · obtain ⟨bytes, hbytes, rfl⟩ := Option.map_eq_some_iff.mp h
        exact .binary hbytes
      · obtain ⟨b, hb, rfl⟩ := Option.map_eq_some_iff.mp h
        exact .bool hb
      · obtain ⟨b, hb, rfl⟩ := Option.map_eq_some_iff.mp h
        exact .null hb
      · split at h
        · cases h
        · obtain ⟨entries, hentries, rfl⟩ := Option.map_eq_some_iff.mp h
          exact .map hentries
      · split at h
        · cases h
        · obtain ⟨values, hvalues, rfl⟩ := Option.map_eq_some_iff.mp h
          exact .list hvalues
      · obtain ⟨items, hitems, rfl⟩ := Option.map_eq_some_iff.mp h
        exact .stringSet hitems
      · obtain ⟨items, hitems, rfl⟩ := Option.map_eq_some_iff.mp h
        exact .numberSet hitems
      · obtain ⟨items, hitems, rfl⟩ := Option.map_eq_some_iff.mp h
        exact .binarySet hitems
      · cases h
  · cases h

/-- What is read is an object, and it is what is written for the value but for the truth values of
its nulls. -/
def WritesBack (levels : Nat) (w : Written) (v : Value) : Prop :=
  ∃ fields, w.value? levels = some (.object fields) ∧
    v.toWire = (Json.object fields).nullsAsTrue ∧ v.Distinct

theorem values?_of_ofWireItems? {levels : Nat}
    (hread : ∀ w v, ofWire? levels w = some v → WritesBack levels w v) {items : List Written}
    {values : List Value} (h : ofWireItems? levels items = some values) :
    ∃ jsons, Written.values? levels items = some jsons ∧
      toWireItems values = Json.nullsAsTrueItems jsons ∧ DistinctItems values := by
  induction items generalizing values with
  | nil =>
    cases h
    exact ⟨[], rfl, rfl, trivial⟩
  | cons w rest ih =>
    simp only [ofWireItems?, Option.bind_eq_bind, Option.bind_eq_some_iff] at h
    obtain ⟨v, hv, more, hmore, h⟩ := h
    cases h
    obtain ⟨fields, hvalue, hwire, hdistinct⟩ := hread w v hv
    obtain ⟨jsons, hvalues, hwires, hdistincts⟩ := ih hmore
    refine ⟨.object fields :: jsons, ?_, ?_, hdistinct, hdistincts⟩
    · rw [Written.values?, hvalue, hvalues]
      rfl
    · rw [toWireItems, Json.nullsAsTrueItems, hwire, hwires]

theorem fields?_of_ofWireEntries? {levels : Nat}
    (hread : ∀ w v, ofWire? levels w = some v → WritesBack levels w v)
    {members : List (Option String × Written)} {entries : List (String × Value)}
    (h : ofWireEntries? levels members = some entries) :
    ∃ fields, Written.fields? levels members = some fields ∧
      toWireEntries entries = Json.nullsAsTrueFields fields ∧
      (∀ field ∈ fields, ∃ inner, field.2 = .object inner) ∧ DistinctEntries entries := by
  induction members generalizing entries with
  | nil =>
    cases h
    exact ⟨[], rfl, rfl, by simp, trivial⟩
  | cons member rest ih =>
    obtain ⟨name, w⟩ := member
    simp only [ofWireEntries?, Option.bind_eq_bind, Option.bind_eq_some_iff] at h
    obtain ⟨name, rfl, v, hv, more, hmore, h⟩ := h
    cases h
    obtain ⟨inner, hvalue, hwire, hdistinct⟩ := hread w v hv
    obtain ⟨fields, hfields, hwires, hobjects, hdistincts⟩ := ih hmore
    refine ⟨(name, .object inner) :: fields, ?_, ?_, ?_, hdistinct, hdistincts⟩
    · rw [Written.fields?, hvalue, hfields]
      rfl
    · rw [toWireEntries, Json.nullsAsTrueFields, hwire, hwires]
    · simpa using hobjects

/-- What the content of a tag is read as is written again under that tag, if this is so of all that
is read further inside. -/
theorem Reads.writesBack {levels : Nat} {tag : String} {content : Written} {v : Value}
    (h : Reads levels tag content v)
    (hread : ∀ lower < levels, ∀ w v, ofWire? lower w = some v → WritesBack lower w v) :
    ∃ json, content.value? levels = some json ∧
      v.toWire = (Json.object [(tag, json)]).nullsAsTrue ∧ v.Distinct := by
  cases h with
  | string h | number h => exact ⟨_, value?_of_text h, rfl, trivial⟩
  | binary h => exact ⟨_, value?_of_readBytes h, rfl, trivial⟩
  | bool h => exact ⟨_, value?_of_flag h, rfl, trivial⟩
  | @null _ _ b h =>
    refine ⟨_, value?_of_flag h, ?_, trivial⟩
    cases b <;> rfl
  | stringSet h | numberSet h =>
    refine ⟨_, value?_of_list (fun _ _ _ => value?_of_text) h, ?_, trivial⟩
    rw [toWire, Json.nullsAsTrue_tagged (by decide), Json.nullsAsTrue,
      Json.nullsAsTrueItems_map (fun _ => rfl)]
  | binarySet h =>
    refine ⟨_, value?_of_list (fun _ _ _ => value?_of_readBytes) h, ?_, trivial⟩
    rw [toWire, Json.nullsAsTrue_tagged (by decide), Json.nullsAsTrue,
      Json.nullsAsTrueItems_map (fun _ => rfl)]
  | @list levels items values h =>
    obtain ⟨jsons, hvalues, hwires, hdistincts⟩ := values?_of_ofWireItems? (hread levels (by omega)) h
    refine ⟨.array jsons, ?_, ?_, hdistincts⟩
    · rw [Written.value?, hvalues, Option.map_some]
    · rw [toWire, Json.nullsAsTrue_tagged (by decide), Json.nullsAsTrue, hwires]
  | @map levels members entries h =>
    obtain ⟨fields, hfields, hwires, hobjects, hdistincts⟩ :=
      fields?_of_ofWireEntries? (hread levels (by omega)) h
    refine ⟨.object (Entries.ofPairs fields), ?_, ?_, Entries.nodup_ofPairs entries, ?_⟩
    · rw [Written.value?, hfields, Option.map_some]
    -- A map is not mistaken for a null: what it names are objects, never truth values.
    · have hnull : Entries.ofPairs fields ≠ [("NULL", .bool false)] := by
        intro heq
        have hmem : ("NULL", Json.bool false) ∈ Entries.ofPairs fields := by simp [heq]
        obtain ⟨inner, hinner⟩ := hobjects _ (Entries.mem_of_mem_ofPairs hmem)
        cases hinner
      have hentries : toWireEntries (Entries.ofPairs entries) =
          Json.nullsAsTrueFields (Entries.ofPairs fields) := by
        rw [toWireEntries_eq_map, Entries.ofPairs_map, ← toWireEntries_eq_map, hwires,
          Json.nullsAsTrueFields_eq_map, ← Entries.ofPairs_map, ← Json.nullsAsTrueFields_eq_map]
      rw [toWire, Json.nullsAsTrue_tagged (by decide), Json.nullsAsTrue_object hnull, hentries]
    · rw [distinctEntries_iff] at hdistincts ⊢
      intro entry hmem
      exact hdistincts entry (Entries.mem_of_mem_ofPairs hmem)

theorem writesBack_of_ofWire? {levels : Nat} {w : Written} {v : Value}
    (h : ofWire? levels w = some v) : WritesBack levels w v := by
  induction levels using Nat.strongRecOn generalizing w v with
  | _ levels ih =>
    obtain ⟨inner, tag, content, rfl, rfl, hreads⟩ := reads_of_ofWire? h
    have hread : ∀ lower < inner, ∀ w v, ofWire? lower w = some v → WritesBack lower w v := by
      intro lower hlower w v hlow
      exact ih lower (by omega) hlow
    obtain ⟨json, hvalue, hwire, hdistinct⟩ := hreads.writesBack hread
    refine ⟨[(tag, json)], ?_, hwire, hdistinct⟩
    simp [Written.value?, Written.fields?, hvalue, Entries.ofPairs, Entries.put]

theorem toWire_of_ofWire?_toWritten {json : Json} (distinct : json.Distinct) {levels : Nat}
    {v : Value} (h : ofWire? levels json.toWritten = some v) : v.toWire = json.nullsAsTrue := by
  obtain ⟨fields, hvalue, hwire, -⟩ := writesBack_of_ofWire? h
  rw [Json.value?_toWritten distinct] at hvalue
  split at hvalue
  · cases hvalue
    exact hwire
  · cases hvalue

/-! ### Byte sequences -/

theorem mapM_readBytes_iff {levels : Nat} {texts : List String} {items : List (List UInt8)} :
    (Json.toWrittenItems (texts.map .string)).mapM (readBytes levels) = some items ↔
      texts = items.map Base64.encodeText := by
  induction texts generalizing items with
  | nil => simp [Json.toWrittenItems, eq_comm]
  | cons text rest ih =>
    simp only [List.map_cons, Json.toWrittenItems, List.mapM_cons, Option.bind_eq_bind,
      Option.bind_eq_some_iff, readBytes_iff, ih]
    cases items with
    | nil => simp
    | cons bytes more => simp

theorem ofWire?_binary_iff {levels : Nat} {text : String} {v : Value} :
    ofWire? (levels + 1) (Json.object [("B", .string text)]).toWritten = some v ↔
      ∃ bytes, v = .binary bytes ∧ text = Base64.encodeText bytes := by
  change (readBytes levels (Json.string text).toWritten).map .binary = some v ↔ _
  simp only [Option.map_eq_some_iff, readBytes_iff]
  grind

/-- The same of each byte sequence in a set. -/
theorem ofWire?_binarySet_iff {levels : Nat} {texts : List String} {v : Value} :
    ofWire? (levels + 2) (Json.object [("BS", .array (texts.map .string))]).toWritten = some v ↔
      ∃ items, v = .binarySet items ∧ texts = items.map Base64.encodeText := by
  change ((Json.toWrittenItems (texts.map .string)).mapM (readBytes levels)).map .binarySet =
    some v ↔ _
  simp only [Option.map_eq_some_iff, mapM_readBytes_iff]
  grind

/-- Values survive the wire. Of a value whose maps have each name once, the JSON is read back as the
same value, unless it is nested deeper than is allowed. Any JSON that is accepted, with each field
once or as it is written with fields repeated, is what is written for the value that is read, but
for nulls that say false. The text of a byte sequence is accepted only if it is the canonical one. -/
theorem wire_roundTrip :
    (∀ (v : Value) (levels : Nat), v.Distinct →
      ofWire? levels v.toWire.toWritten = if v.toWire.depth ≤ levels then some v else none) ∧
    (∀ (json : Json) (levels : Nat) (v : Value), json.Distinct →
      ofWire? levels json.toWritten = some v → v.toWire = json.nullsAsTrue) ∧
    (∀ (w : Written) (levels : Nat) (v : Value), ofWire? levels w = some v →
      ∃ fields, w.value? levels = some (.object fields) ∧
        v.toWire = (Json.object fields).nullsAsTrue ∧ v.Distinct) ∧
    (∀ (text : String) (levels : Nat) (v : Value),
      ofWire? (levels + 1) (Json.object [("B", .string text)]).toWritten = some v ↔
        ∃ bytes, v = .binary bytes ∧ text = Base64.encodeText bytes) ∧
    (∀ (texts : List String) (levels : Nat) (v : Value),
      ofWire? (levels + 2) (Json.object [("BS", .array (texts.map .string))]).toWritten = some v ↔
        ∃ items, v = .binarySet items ∧ texts = items.map Base64.encodeText) ∧
    ∀ (text : String) (bytes : List UInt8),
      text = Base64.encodeText bytes ↔ Base64.Canonical text.toList bytes := by
  refine ⟨?_, ?_, ?_, ?_, ?_, ?_⟩
  · intro v levels distinct
    exact ofWire?_toWire distinct levels
  · intro json levels v distinct h
    exact toWire_of_ofWire?_toWritten distinct h
  · intro w levels v h
    exact writesBack_of_ofWire? h
  · intro text levels v
    exact ofWire?_binary_iff
  · intro texts levels v
    exact ofWire?_binarySet_iff
  · intro text bytes
    exact Base64.canonical_iff.symm

/-- A map of a list and a set, and a null that says false within a map. -/
theorem wire_roundTrip_of_nested :
    ofWire? 5 (toWire (.map [("b", .list [.binary [1, 2, 255], .null]),
        ("a", .numberSet ["1.0"])])).toWritten =
      some (.map [("b", .list [.binary [1, 2, 255], .null]), ("a", .numberSet ["1.0"])]) ∧
    toWire (.map [("a", .null)]) =
      (Json.object [("M", .object [("a", .object [("NULL", .bool false)])])]).nullsAsTrue := by
  constructor
  · have hdistinct : Distinct (.map [("b", .list [.binary [1, 2, 255], .null]),
        ("a", .numberSet ["1.0"])]) := by
      simp [Distinct, DistinctEntries, DistinctItems]
    exact wire_roundTrip.1 _ 5 hdistinct
  · exact wire_roundTrip.2.1 _ 3 _ (by simp [Json.Distinct, Json.DistinctFields]) rfl

end Value

end ItemStore
