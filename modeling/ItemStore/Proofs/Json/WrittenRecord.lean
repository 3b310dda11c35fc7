import ItemStore.Json.Record
import ItemStore.Proofs.Json.PrintedText
import ItemStore.Proofs.Json.TakenValue

/-! # Structures written and read

What is written for a structure is an object of its fields. It is read as that structure if what
is written for each field is read as that field, and if a field that is left out has the value that
its absence stands for.
-/
namespace ItemStore.Json

namespace Decoder
variable {α β : Type} {read : Decoder α} {levels : Nat} {json : Json} {a : α} {w : Written}

/-- What is written for a value can be printed, and it is read as that value in a place that allows
as many levels. -/
structure Restores (read : Decoder α) (levels : Nat) (json : Json) (a : α) : Prop where
  inRange : json.InRange
  reads : read levels json.toWritten = some a

theorem Restores.read_render (h : Restores read levels json a) :
    (Written.read? (Text.symbols (Text.bytes json.render))).bind (read levels) = some a := by
  rw [read?_bytes_render h.inRange, Option.bind_some, h.reads]

theorem Restores.run_render (h : Restores read maxLevels json a) :
    read.run (Text.symbols (Text.bytes json.render)) = some a := h.read_render

theorem restores_text (s : String) (levels : Nat) : Restores text levels (.string s) s :=
  ⟨.string s, rfl⟩

theorem restores_flag (b : Bool) (levels : Nat) : Restores flag levels (.bool b) b := ⟨.bool b, rfl⟩

theorem restores_intBetween {low high i : Int} (h : low ≤ i ∧ i ≤ high)
    (hrange : (JsonNumber.int i).InRange) (levels : Nat) :
    Restores (intBetween low high) levels (.ofInt i) i where
  inRange := .number hrange
  reads := if_pos h

theorem restores_int64 {i : Int} (h : Number.fitsInt64 i = true) (levels : Nat) :
    Restores int64 levels (.ofInt i) i := by
  have hfits := Number.fitsInt64_iff.mp h
  exact restores_intBetween hfits ⟨hfits.1, Int.le_trans hfits.2 (by decide)⟩ levels

theorem restores_nat64 {n : Nat} (h : (n : Int) ≤ Number.nat64Max) (levels : Nat) :
    Restores nat64 levels (.ofNat n) n := by
  have hlow : Number.int64Min ≤ (n : Int) := Int.le_trans (by decide) (Int.natCast_nonneg n)
  have hread := restores_intBetween ⟨Int.natCast_nonneg n, h⟩ ⟨hlow, h⟩ levels
  exact ⟨hread.inRange, congrArg (Option.map Int.toNat) hread.reads⟩

theorem restores_float {x : Number.Binary64} (h : x.isFinite = true) (levels : Nat) :
    Restores float levels (.ofFloat x) x := by
  rw [ofFloat, if_pos h]
  exact ⟨.number h, rfl⟩

theorem restores_word {words : List (String × α)} {s : String} (h : Entries.find? words s = some a)
    (levels : Nat) : Restores (word words) levels (.string s) a := ⟨.string s, h⟩

theorem restores_value (h : json.Taken levels) : Restores value levels json json :=
  ⟨h.inRange, h.value?_toWritten⟩

theorem Restores.map (f : α → β) (h : Restores read levels json a) :
    Restores (.map f read) levels json (f a) :=
  ⟨h.inRange, congrArg (Option.map f) h.reads⟩

theorem restores_null : Restores (.optional read) levels .null none := ⟨.null, rfl⟩

theorem Restores.optional (h : Restores read levels json a) (hjson : json.isNull = false) :
    Restores (.optional read) levels json (some a) := by
  refine ⟨h.inRange, ?_⟩
  have hreads := congrArg (Option.map some) h.reads
  cases json with
  | null => cases hjson
  | _ => exact hreads

theorem restores_list {encode : α → Json} (as : List α)
    (h : ∀ a ∈ as, Restores read levels (encode a) a) :
    Restores (.list read) (levels + 1) (.array (as.map encode)) as := by
  constructor
  · refine .array ?_
    rw [List.forall_mem_map]
    exact fun a ha => (h a ha).inRange
  · change (toWrittenItems (as.map encode)).mapM (read levels) = some as
    induction as with
    | nil => rfl
    | cons a rest ih =>
      obtain ⟨ha, hrest⟩ := List.forall_mem_cons.mp h
      rw [List.map_cons, toWrittenItems, List.mapM_cons, ha.reads, ih hrest]
      rfl

theorem restores_array {encode : α → Json} {as : List α}
    (h : ∀ a ∈ as, ∀ inner, (encode a).depth ≤ inner → Restores read inner (encode a) a)
    (hdepth : (Json.array (as.map encode)).depth ≤ levels) :
    Restores (.list read) levels (.array (as.map encode)) as := by
  obtain ⟨inner, rfl, hitems⟩ := exists_of_depth_array_le hdepth
  rw [List.forall_mem_map] at hitems
  exact restores_list as fun a ha => h a ha inner (hitems a ha)

/-! ### What is read -/

theorem fitsInt64_of_int64 {i : Int} (h : int64 levels w = some i) : Number.fitsInt64 i = true := by
  unfold int64 intBetween at h
  split at h
  · split at h
    · next hbounds =>
      cases h
      exact Number.fitsInt64_iff.mpr hbounds
    · cases h
  · cases h

theorem exists_of_list {as : List α} (h : list read levels w = some as) :
    ∃ inner items, levels = inner + 1 ∧ (w = .array items ∨ w = .openArray items) ∧
      ∀ a ∈ as, ∃ item ∈ items, read inner item = some a := by
  have hitems {levels : Nat} {items : List Written} {as : List α}
      (h : items.mapM (read levels) = some as) :
      ∀ a ∈ as, ∃ item ∈ items, read levels item = some a := by
    induction items generalizing as with
    | nil =>
      cases h
      simp
    | cons item rest ih =>
      simp only [List.mapM_cons, Option.bind_eq_bind, Option.bind_eq_some_iff] at h
      obtain ⟨first, hfirst, others, hothers, h⟩ := h
      cases h
      refine List.forall_mem_cons.mpr ⟨⟨item, List.mem_cons_self, hfirst⟩, fun a ha => ?_⟩
      obtain ⟨w, hw, hread⟩ := ih hothers a ha
      exact ⟨w, List.mem_cons_of_mem _ hw, hread⟩
  unfold list at h
  split at h
  · exact ⟨_, _, rfl, .inl rfl, hitems h⟩
  · exact ⟨_, _, rfl, .inr rfl, hitems h⟩
  · cases h

end Decoder

/-! ### Records -/

namespace Record
variable {α : Type} {names : List String} {fields : List (String × Json)} {levels : Nat}

def ofFields (fields : List (String × Json)) (levels : Nat) : Record :=
  ⟨fields.map fun (name, json) => (name, json.toWritten), false, levels⟩

theorem declared?_toWrittenMembers (hnames : (Entries.names fields).Nodup)
    (hdeclared : ∀ name ∈ Entries.names fields, name ∈ names) :
    declared? names (toWrittenMembers fields) =
      some (fields.map fun (name, json) => (name, json.toWritten)) := by
  induction fields with
  | nil => rfl
  | cons field rest ih =>
    obtain ⟨name, json⟩ := field
    rw [Entries.names_cons, List.nodup_cons] at hnames
    rw [Entries.names_cons, List.forall_mem_cons] at hdeclared
    have hnew : (rest.map fun (name, json) => (name, json.toWritten)).any (·.1 == name) = false := by
      rw [List.any_eq_false]
      rintro ⟨other, w⟩ hmem hsame
      obtain ⟨field, hfield, heq⟩ := List.mem_map.mp hmem
      cases heq
      cases beq_iff_eq.mp hsame
      exact hnames.1 (List.mem_map_of_mem hfield)
    simp [toWrittenMembers, declared?, ih hnames.2 hdeclared.2, hdeclared.1, hnew]

theorem ofWritten?_toWritten (names : List String) (fields : List (String × Json))
    (hnames : (Entries.names fields).Nodup) (hdeclared : ∀ name ∈ Entries.names fields, name ∈ names)
    (levels : Nat) :
    ofWritten? names (levels + 1) (Json.object fields).toWritten = some (ofFields fields levels) := by
  rw [toWritten, ofWritten?, declared?_toWrittenMembers hnames hdeclared]
  rfl

theorem restores_object {build : Record → Option α} {a : α} (fields : List (String × Json))
    (hnames : (Entries.names fields).Nodup) (hdeclared : ∀ name ∈ Entries.names fields, name ∈ names)
    (hrange : ∀ field ∈ fields, field.2.InRange) (hbuild : build (ofFields fields levels) = some a) :
    Decoder.Restores (fun levels w => ofWritten? names levels w >>= build) (levels + 1)
      (.object fields) a := by
  refine ⟨.object fun name json hmem => hrange (name, json) hmem, ?_⟩
  rw [ofWritten?_toWritten names fields hnames hdeclared levels]
  exact hbuild

/-- In what order the names are declared does not matter to an object. -/
theorem ofWritten?_object_congr {names' : List String} (h : ∀ name, name ∈ names ↔ name ∈ names')
    (members : List (Option String × Written)) :
    ofWritten? names levels (.object members) = ofWritten? names' levels (.object members) := by
  have hdeclared : declared? names members = declared? names' members := by
    induction members with
    | nil => rfl
    | cons member rest ih =>
      obtain ⟨_ | name, w⟩ := member
      · rfl
      · simp only [declared?, ih, List.contains_iff_mem, h]
  cases levels with
  | zero => rfl
  | succ levels => rw [ofWritten?, ofWritten?, hdeclared]

theorem find?_ofFields (name : String) :
    (ofFields fields levels).find? name = (Entries.find? fields name).map toWritten :=
  Entries.find?_map fields toWritten name

section Field
variable {json : Json} {read : Decoder α} {default a : α}

theorem required_ofFields (fields : List (String × Json)) (name : String)
    (hfind : Entries.find? fields name = some json)
    (h : read.Restores levels json a) : (ofFields fields levels).required name read = some a := by
  rw [required, find?_ofFields, hfind]
  exact h.reads

theorem withDefault_ofFields (fields : List (String × Json)) (name : String) (default : α)
    (hfind : Entries.find? fields name = some json) (h : read.Restores levels json a) :
    (ofFields fields levels).withDefault name default read = some a := by
  rw [withDefault, find?_ofFields, hfind]
  exact h.reads

theorem withDefault_ofFields_of_absent (fields : List (String × Json)) (name : String) (default : α)
    (hfind : Entries.find? fields name = none) :
    (ofFields fields levels).withDefault name default read = some default := by
  rw [withDefault, find?_ofFields, hfind]
  rfl

/-- A field that has a default is read from the text or takes the default. -/
theorem exists_of_withDefault {record : Record} {name : String}
    (h : record.withDefault name default read = some a) :
    (∃ w, (name, w) ∈ record.fields ∧ read record.levels w = some a) ∨ a = default := by
  unfold withDefault at h
  split at h
  · next w hfind => exact .inl ⟨w, Entries.mem_of_find? hfind, h⟩
  · exact .inr (Option.some.inj h).symm

end Field

/-! ### Members that may be left out -/

section Members
variable {members : List (Bool × String × Json)}

def written (members : List (Bool × String × Json)) : List (String × Json) :=
  (members.filter (·.1)).map (·.2)

theorem names_written_sublist :
    (Entries.names (written members)).Sublist (members.map fun member => member.2.1) := by
  rw [Entries.names, written, List.map_map]
  exact List.filter_sublist.map _

theorem find?_written (hnames : (members.map fun member => member.2.1).Nodup) (name : String)
    (present : Bool) {json : Json} (hmem : (present, name, json) ∈ members) :
    Entries.find? (written members) name = if present then some json else none := by
  cases present with
  | true =>
    refine Entries.find?_eq_some_of_mem (names_written_sublist.nodup hnames) ?_
    exact List.mem_map_of_mem (List.mem_filter.mpr ⟨hmem, rfl⟩)
  | false =>
    refine Entries.find?_eq_none_iff.mpr fun hname => ?_
    obtain ⟨entry, hentry, rfl⟩ := List.mem_map.mp hname
    obtain ⟨member, hmember, rfl⟩ := List.mem_map.mp hentry
    obtain ⟨hother, hpresent⟩ := List.mem_filter.mp hmember
    have hsame := List.inj_on_of_nodup_map hnames hmem hother rfl
    rw [← hsame] at hpresent
    cases hpresent

theorem restores_written {build : Record → Option α} {a : α} (members : List (Bool × String × Json))
    (hnames : (members.map fun member => member.2.1).Nodup)
    (hdeclared : ∀ member ∈ members, member.2.1 ∈ names)
    (hrange : ∀ member ∈ members, member.1 = true → member.2.2.InRange)
    (hbuild : build (ofFields (written members) levels) = some a) :
    Decoder.Restores (fun levels w => ofWritten? names levels w >>= build) (levels + 1)
      (.object (written members)) a := by
  refine restores_object _ (names_written_sublist.nodup hnames) (fun name hname => ?_)
    (fun field hfield => ?_) hbuild
  · obtain ⟨member, hmember, rfl⟩ := List.mem_map.mp (names_written_sublist.subset hname)
    exact hdeclared member hmember
  · obtain ⟨member, hmember, rfl⟩ := List.mem_map.mp hfield
    obtain ⟨hmem, hpresent⟩ := List.mem_filter.mp hmember
    exact hrange member hmem hpresent

/-- A member that is written is read, and one that is left out has its default. -/
theorem withDefault_written {read : Decoder α} {json : Json} {a : α}
    (hnames : (members.map fun member => member.2.1).Nodup) (name : String) (default : α)
    (present : Bool) (hmem : (present, name, json) ∈ members)
    (hread : present = true → read.Restores levels json a)
    (hdefault : present = false → a = default) :
    (ofFields (written members) levels).withDefault name default read = some a := by
  have hfind := find?_written hnames name present hmem
  cases present with
  | true => exact withDefault_ofFields _ name default hfind (hread rfl)
  | false => rw [hdefault rfl, withDefault_ofFields_of_absent _ name default hfind]

theorem required_written {read : Decoder α} {json : Json} {a : α}
    (hnames : (members.map fun member => member.2.1).Nodup) (name : String)
    (hmem : (true, name, json) ∈ members) (hread : read.Restores levels json a) :
    (ofFields (written members) levels).required name read = some a :=
  required_ofFields _ name (find?_written hnames name true hmem) hread

/-- A text may be left out if it is empty. -/
theorem text_written (hnames : (members.map fun member => member.2.1).Nodup) (name s : String)
    (hmem : (true, name, .string s) ∈ members ∨ (decide (s ≠ ""), name, .string s) ∈ members) :
    (ofFields (written members) levels).withDefault name "" .text = some s := by
  rcases hmem with hmem | hmem
  · exact withDefault_written hnames name "" true hmem (fun _ => Decoder.restores_text s levels) nofun
  · refine withDefault_written hnames name "" _ hmem (fun _ => Decoder.restores_text s levels)
      fun hempty => ?_
    simpa using hempty

/-- A flag that is not set is left out. -/
theorem flag_written (hnames : (members.map fun member => member.2.1).Nodup) (name : String) (b : Bool)
    (hmem : (b, name, .bool b) ∈ members) :
    (ofFields (written members) levels).withDefault name false .flag = some b :=
  withDefault_written hnames name false b hmem (fun _ => Decoder.restores_flag b levels) id

end Members

/-! ### Records that are read -/

theorem mem_of_declared? {members : List (Option String × Written)}
    {declared : List (String × Written)} (h : declared? names members = some declared) :
    ∀ field ∈ declared, (some field.1, field.2) ∈ members := by
  induction members generalizing declared with
  | nil =>
    cases h
    simp
  | cons member rest ih =>
    obtain ⟨_ | name, w⟩ := member
    · cases h
    obtain ⟨others, hothers, h⟩ := Option.bind_eq_some_iff.mp h
    have hrest : ∀ field ∈ others, (some field.1, field.2) ∈ (some name, w) :: rest :=
      fun field hmem => List.mem_cons_of_mem _ (ih hothers field hmem)
    split at h
    · split at h
      · cases h
      · cases h
        exact List.forall_mem_cons.mpr ⟨List.mem_cons_self, hrest⟩
    · cases h
      exact hrest

theorem inRange_of_ofWritten? {w : Written} {record : Record} (hw : w.InRange)
    (h : ofWritten? names levels w = some record) :
    levels = record.levels + 1 ∧ ∀ field ∈ record.fields, field.2.InRange := by
  unfold ofWritten? at h
  split at h
  · obtain ⟨declared, hdeclared, rfl⟩ := Option.map_eq_some_iff.mp h
    cases hw with
    | object hmembers =>
      exact ⟨rfl, fun field hmem => hmembers _ _ (mem_of_declared? hdeclared field hmem)⟩
  · split at h
    · cases h
      cases hw with
      | array hitems => exact ⟨rfl, fun field hmem => hitems _ (List.of_mem_zip hmem).2⟩
    · cases h
  · cases h
    cases hw with
    | openArray hitems => exact ⟨rfl, fun field hmem => hitems _ (List.of_mem_zip hmem).2⟩
  · cases h

end Record

end ItemStore.Json
