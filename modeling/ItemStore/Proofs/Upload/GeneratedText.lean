import ItemStore.Proofs.Text.ByteOrder
import ItemStore.Proofs.Text.Pieces
import ItemStore.Upload.Statement

/-! # Generated statements read back

A generated statement is text with the names of the table and the fields in quotes. Whatever
characters the names have, reading the text back gives the same names again, and what stands outside
the quotes depends on the operation and the number of fields alone. So no name can add to a
statement or take a placeholder from it.
-/
namespace ItemStore.Upload
open Text (Piece ReadsAs isMark literal? literals outline pieces?)

/-! ### Placeholders -/

section Placeholders
variable {c mark : Char} (offset : Nat) (rest : List Char)

theorem ne_question_of_isMark (h : isMark mark = true) : mark ≠ '?' := by
  rintro rfl
  cases h

theorem placeholdersFrom_open (h : isMark c = true) :
    placeholdersFrom none offset (c :: rest) =
      placeholdersFrom (some c) (offset + c.utf8Size) rest := by
  have hquote : c = '\'' ∨ c = '"' := by simpa [isMark] using h
  simp [placeholdersFrom, nextQuote, hquote, ne_question_of_isMark h]

theorem placeholdersFrom_plain (h : isMark c = false) :
    placeholdersFrom none offset (c :: rest) =
      if c = '?' then offset :: placeholdersFrom none (offset + c.utf8Size) rest
      else placeholdersFrom none (offset + c.utf8Size) rest := by
  have hquote : ¬ (c = '\'' ∨ c = '"') := by simpa [isMark] using h
  simp [placeholdersFrom, nextQuote, hquote]

theorem placeholdersFrom_within (h : c ≠ mark) :
    placeholdersFrom (some mark) offset (c :: rest) =
      placeholdersFrom (some mark) (offset + c.utf8Size) rest := by
  simp [placeholdersFrom, nextQuote, h]

theorem placeholdersFrom_close :
    placeholdersFrom (some mark) offset (mark :: rest) =
      placeholdersFrom none (offset + mark.utf8Size) rest := by
  simp [placeholdersFrom, nextQuote]

end Placeholders

mutual

/-- The placeholders of a text are the question marks outside its literals. -/
theorem length_placeholdersFrom_none (text : List Char) {ps : List Piece} (offset : Nat)
    (h : pieces? text = some ps) :
    (placeholdersFrom none offset text).length = (outline ps).count '?' := by
  match text with
  | [] =>
    cases h
    rfl
  | c :: rest =>
    rw [pieces?] at h
    split at h
    · next hc =>
      rw [placeholdersFrom_open offset rest hc]
      exact length_placeholdersFrom_some hc rest _ h
    · next hc =>
      obtain ⟨qs, hqs, rfl⟩ := Option.map_eq_some_iff.mp h
      have ih := length_placeholdersFrom_none rest (offset + c.utf8Size) hqs
      rw [placeholdersFrom_plain offset rest (by simpa using hc), outline]
      by_cases hquestion : c = '?'
      · subst hquestion
        simp [ih]
      · simp [hquestion, ih]

/-- A quote that stands for itself closes its literal and opens it again, so no question mark is
taken for one outside. -/
theorem length_placeholdersFrom_some {mark : Char} {read : List Char} (hmark : isMark mark = true)
    (text : List Char) {ps : List Piece} (offset : Nat) (h : literal? mark read text = some ps) :
    (placeholdersFrom (some mark) offset text).length = (outline ps).count '?' := by
  match text with
  | [] => simp [literal?] at h
  | [c] =>
    rw [literal?] at h
    split at h
    · next hc =>
      cases h
      subst hc
      simp [placeholdersFrom, outline, ne_question_of_isMark hmark]
    · cases h
  | c :: d :: rest =>
    rw [literal?] at h
    split at h
    · next hc =>
      rw [placeholdersFrom_within _ _ hc]
      exact length_placeholdersFrom_some hmark (d :: rest) _ h
    · next hc =>
      obtain rfl : c = mark := by simpa using hc
      rw [placeholdersFrom_close]
      split at h
      · next hd =>
        subst hd
        rw [placeholdersFrom_open _ _ hmark]
        exact length_placeholdersFrom_some hmark rest _ h
      · next hd =>
        obtain ⟨qs, hqs, rfl⟩ := Option.map_eq_some_iff.mp h
        rw [length_placeholdersFrom_none (d :: rest) _ hqs]
        simp [outline, ne_question_of_isMark hmark]

end

/-! ### The texts of the operations -/

def conditionSkeleton (fields : Nat) : String :=
  " WHERE " ++ " AND ".intercalate (List.replicate fields "''=?")

def insertSkeleton (fields : Nat) : String :=
  "INSERT INTO \"\" VALUE \x7b" ++ ", ".intercalate (List.replicate fields "'': ?") ++ "\x7d"

def updateSkeleton (assigned keys : Nat) : String :=
  "UPDATE \"\" SET " ++ ", ".intercalate (List.replicate assigned "''=?") ++ conditionSkeleton keys

def deleteSkeleton (fields : Nat) : String := "DELETE FROM \"\"" ++ conditionSkeleton fields

def selectSkeleton (fields : Nat) : String :=
  "SELECT * FROM \"\"" ++ if fields = 0 then "" else conditionSkeleton fields

/-- The statement of an operation with its literals left empty, for so many assigned fields and so
many others. -/
def skeleton : Operation → Nat → Nat → String
  | .insert, _, others => insertSkeleton others
  | .update, assigned, others => updateSkeleton assigned others
  | .delete, _, others => deleteSkeleton others
  | .select, _, others => selectSkeleton others
  | .unsupported _, _, _ => ""

theorem isMark_comma : ∀ c ∈ comma, isMark c = false := by simp [comma, isMark]

theorem isMark_conjunction : ∀ c ∈ conjunction, isMark c = false := by
  unfold conjunction
  simp [isMark]

theorem join_eq_intercalate (separator : List Char) (parts : List (List Char)) :
    join separator parts = separator.intercalate parts := by
  induction parts with
  | nil => rfl
  | cons part rest ih =>
    cases rest with
    | nil => simp [join]
    | cons next rest => simp [join, ih, List.intercalate_cons_cons]

/-- Each name is a literal in single quotes, and what else its part has does not depend on it. -/
theorem readsAs_join {separator tail : List Char} (hseparator : ∀ c ∈ separator, isMark c = false)
    (htail : ∀ c ∈ tail, isMark c = false) (hne : tail ≠ []) (names : List String) :
    ReadsAs (join separator (names.map fun name => quoteAttribute name ++ tail))
      (separator.intercalate (List.replicate names.length ('\'' :: '\'' :: tail)))
      (names.map fun name => ('\'', name)) := by
  rw [join_eq_intercalate]
  induction names with
  | nil => exact .plain (by simp)
  | cons name rest ih =>
    have hname : ReadsAs (quoteAttribute name ++ tail) _ _ := .literal rfl name htail hne
    cases rest with
    | nil => simpa using hname
    | cons next rest =>
      simpa [List.intercalate_cons_cons, List.replicate_succ] using
        (hname.append (.plain hseparator)).append ih

theorem readsAs_equations {separator : List Char} (hseparator : ∀ c ∈ separator, isMark c = false)
    (names : List String) :
    ReadsAs (equations separator placeholder names)
      (separator.intercalate (List.replicate names.length "''=?".toList))
      (names.map fun name => ('\'', name)) := by
  have hpart : "''=?".toList = '\'' :: '\'' :: ['=', '?'] := by simp
  rw [hpart]
  exact readsAs_join hseparator (by simp [isMark]) (by simp) names

section Texts
variable (table : String)

theorem readsAs_table {text : List Char} (h : ∀ c ∈ text, isMark c = false) (hne : text ≠ []) :
    ReadsAs (quoteTable table ++ text) ('"' :: '"' :: text) [('"', table)] :=
  .literal rfl table h hne

theorem readsAs_insertText (names : List String) :
    ReadsAs (insertText table names placeholder) (insertSkeleton names.length).toList
      (('"', table) :: names.map fun name => ('\'', name)) := by
  have hverb : ReadsAs "INSERT INTO ".toList _ _ := .plain (by simp [isMark])
  -- the blank after the name is what closes its literal, so the two are read together
  have htable : ReadsAs (quoteTable table ++ " VALUE \x7b".toList) _ _ :=
    readsAs_table table (by simp [isMark]) (by simp)
  have hnames : ReadsAs (join comma (names.map fun name => quoteAttribute name ++ [':', ' ', '?']))
      _ _ := readsAs_join isMark_comma (by simp [isMark]) (by simp) names
  have hend : ReadsAs ['\x7d'] _ _ := .plain (by simp [isMark])
  have h := ((hverb.append htable).append hnames).append hend
  have hskeleton : (insertSkeleton names.length).toList = "INSERT INTO ".toList ++
      ('"' :: '"' :: " VALUE \x7b".toList) ++
      comma.intercalate (List.replicate names.length ['\'', '\'', ':', ' ', '?']) ++ ['\x7d'] := by
    unfold insertSkeleton
    simp only [String.toList_append, String.toList_intercalate, List.map_replicate]
    simp [comma]
  rw [hskeleton]
  unfold insertText placeholder
  simpa only [List.append_assoc, List.cons_append, List.nil_append, List.append_nil] using h

theorem readsAs_condition (names : List String) :
    ReadsAs (quoteTable table ++ (" WHERE ".toList ++ equations conjunction placeholder names))
      ('"' :: '"' :: (conditionSkeleton names.length).toList)
      (('"', table) :: names.map fun name => ('\'', name)) := by
  have htable : ReadsAs (quoteTable table ++ " WHERE ".toList) _ _ :=
    readsAs_table table (by simp [isMark]) (by simp)
  have hnames := readsAs_equations isMark_conjunction names
  unfold conditionSkeleton
  simp only [String.toList_append, String.toList_intercalate, List.map_replicate]
  have h := htable.append hnames
  rw [List.append_assoc] at h
  exact h

theorem readsAs_deleteText (names : List String) :
    ReadsAs (deleteText table names placeholder) (deleteSkeleton names.length).toList
      (('"', table) :: names.map fun name => ('\'', name)) := by
  have hverb : ReadsAs "DELETE FROM ".toList _ _ := .plain (by simp [isMark])
  have h := hverb.append (readsAs_condition table names)
  have hskeleton : (deleteSkeleton names.length).toList = "DELETE FROM ".toList ++
      ('"' :: '"' :: (conditionSkeleton names.length).toList) := by
    unfold deleteSkeleton
    simp only [String.toList_append]
    simp
  rw [hskeleton]
  unfold deleteText
  simpa only [List.append_assoc, List.cons_append, List.nil_append] using h

/-- Without fields the statement ends with the name of the table. -/
theorem pieces?_selectText (names : List String) :
    ∃ ps, pieces? (selectText table names placeholder) = some ps ∧
      outline ps = (selectSkeleton names.length).toList ∧
      literals ps = ('"', table) :: names.map fun name => ('\'', name) := by
  have hverb : ReadsAs "SELECT * FROM ".toList _ _ := .plain (by simp [isMark])
  cases names with
  | nil =>
    have hmark : isMark '"' = true := rfl
    have h := hverb.exists_pieces_enclosed hmark table
    have htext : selectText table [] placeholder = "SELECT * FROM ".toList ++ quoteTable table :=
      List.append_nil _
    have hskeleton : (selectSkeleton 0).toList = "SELECT * FROM ".toList ++ ['"', '"'] := by
      unfold selectSkeleton
      simp only [String.toList_append]
      simp
    rw [htext, List.length_nil, hskeleton]
    exact h
  | cons name rest =>
    have h := hverb.append (readsAs_condition table (name :: rest))
    have hskeleton : (selectSkeleton (name :: rest).length).toList = "SELECT * FROM ".toList ++
        ('"' :: '"' :: (conditionSkeleton (name :: rest).length).toList) := by
      unfold selectSkeleton
      simp only [String.toList_append]
      simp
    rw [hskeleton]
    refine ReadsAs.exists_pieces ?_
    unfold selectText
    rw [if_neg (by simp)]
    simpa only [List.append_assoc, List.cons_append, List.nil_append] using h

theorem readsAs_updateText (assigned keys : List String) :
    ReadsAs (updateText table assigned keys placeholder)
      (updateSkeleton assigned.length keys.length).toList
      (('"', table) :: (assigned ++ keys).map fun name => ('\'', name)) := by
  have hverb : ReadsAs "UPDATE ".toList _ _ := .plain (by simp [isMark])
  have htable : ReadsAs (quoteTable table ++ " SET ".toList) _ _ :=
    readsAs_table table (by simp [isMark]) (by simp)
  have hassigned := readsAs_equations isMark_comma assigned
  have hwhere : ReadsAs " WHERE ".toList _ _ := .plain (by simp [isMark])
  have hkeys := readsAs_equations isMark_conjunction keys
  have h := (((hverb.append htable).append hassigned).append hwhere).append hkeys
  have hskeleton : (updateSkeleton assigned.length keys.length).toList = "UPDATE ".toList ++
      ('"' :: '"' :: " SET ".toList) ++
      comma.intercalate (List.replicate assigned.length "''=?".toList) ++ " WHERE ".toList ++
      conjunction.intercalate (List.replicate keys.length "''=?".toList) := by
    unfold updateSkeleton conditionSkeleton
    simp only [String.toList_append, String.toList_intercalate, List.map_replicate]
    simp [comma, conjunction]
  rw [hskeleton, List.map_append]
  unfold updateText
  simpa only [List.append_assoc, List.cons_append, List.nil_append, List.append_nil] using h

end Texts

/-! ### The number of placeholders -/

theorem count_intercalate_replicate {c : Char} {separator part : List Char}
    (hseparator : separator.count c = 0) (hpart : part.count c = 1) (n : Nat) :
    (separator.intercalate (List.replicate n part)).count c = n := by
  induction n with
  | zero => rfl
  | succ n ih =>
    cases n with
    | zero => simpa using hpart
    | succ n =>
      rw [List.replicate_succ] at ih ⊢
      rw [List.replicate_succ, List.intercalate_cons_cons]
      simp only [List.count_append, hseparator, hpart, ih]
      omega

theorem count_insertSkeleton (fields : Nat) : (insertSkeleton fields).toList.count '?' = fields := by
  unfold insertSkeleton
  simp only [String.toList_append, String.toList_intercalate, List.map_replicate]
  rw [List.count_append, List.count_append, count_intercalate_replicate (by simp) (by simp)]
  simp

theorem count_conditionSkeleton (fields : Nat) :
    (conditionSkeleton fields).toList.count '?' = fields := by
  unfold conditionSkeleton
  simp only [String.toList_append, String.toList_intercalate, List.map_replicate]
  rw [List.count_append, count_intercalate_replicate (by simp) (by simp)]
  simp

theorem count_updateSkeleton (assigned keys : Nat) :
    (updateSkeleton assigned keys).toList.count '?' = assigned + keys := by
  unfold updateSkeleton
  simp only [String.toList_append, String.toList_intercalate, List.map_replicate]
  rw [List.count_append, List.count_append, count_intercalate_replicate (by simp) (by simp),
    count_conditionSkeleton]
  simp

theorem count_deleteSkeleton (fields : Nat) : (deleteSkeleton fields).toList.count '?' = fields := by
  unfold deleteSkeleton
  simp only [String.toList_append]
  rw [List.count_append, count_conditionSkeleton]
  simp

theorem count_selectSkeleton (fields : Nat) : (selectSkeleton fields).toList.count '?' = fields := by
  unfold selectSkeleton
  simp only [String.toList_append]
  rw [List.count_append]
  cases fields with
  | zero => simp
  | succ fields =>
    rw [if_neg (Nat.succ_ne_zero fields), count_conditionSkeleton]
    simp

/-! ### The statements of the operations -/

theorem sortedNames_perm (item : Item) : (sortedNames item).Perm item.names :=
  List.mergeSort_perm _ _

theorem sortedNames_ascending (item : Item) : (sortedNames item).Pairwise (· ≤ ·) := by
  have hsorted : (sortedNames item).Pairwise fun a b => decide (a ≤ b) = true := by
    refine List.pairwise_mergeSort ?_ ?_ item.names
    · intro a b c hab hbc
      rw [decide_eq_true_eq] at *
      exact Std.le_trans hab hbc
    · intro a b
      simpa using Std.le_total
  exact hsorted.imp of_decide_eq_true

theorem sortedNames_sorted (item : Item) : (sortedNames item).Pairwise Text.BytewiseLE :=
  (sortedNames_ascending item).imp Text.bytewiseLE_of_le

theorem exists_fieldValue_of_mem {item : Item} {name : String} (h : name ∈ item.names) :
    ∃ json, item.find? name = some json ∧ fieldValue item name = json := by
  cases hfind : item.find? name with
  | none => exact absurd h (Entries.find?_eq_none_iff.mp hfind)
  | some json => exact ⟨json, rfl, by simp [fieldValue, hfind]⟩

/-- What a generated statement reads back as: the text of its operation with the table in double
quotes and the fields in single quotes, those that are assigned first. Only an update assigns
fields, and its other fields are its keys. There is one placeholder for each field, in order. -/
structure ReadBack (p : Preset) (item : Item) (assigned others : List String)
    (built : BuiltStatement) : Prop where
  text : ∃ ps, pieces? built.statement.toList = some ps ∧
    outline ps = (skeleton p.operation assigned.length others.length).toList ∧
    literals ps = ('"', p.table) :: (assigned ++ others).map fun name => ('\'', name)
  fields : (assigned ++ others).Perm item.names
  assigned_sorted : assigned.Pairwise Text.BytewiseLE
  others_sorted : others.Pairwise Text.BytewiseLE
  assigned_of_update : ∀ name ∈ assigned, p.operation = .update ∧ isKeyField p name = false
  others_of_update : p.operation = .update → ∀ name ∈ others, isKeyField p name = true
  placeholders : (placeholders built.statement).length = built.parameters.length
  length_parameters : built.parameters.length = (assigned ++ others).length
  parameter : ∀ (i : Nat) (name : String), (assigned ++ others)[i]? = some name →
    ∃ json, item.find? name = some json ∧ built.parameters[i]? = some (Value.marshal json)

section Builders
variable {p : Preset} {item : Item} {built : BuiltStatement}

theorem count_skeleton {assigned others : List String}
    (hsupported : p.operation.ensureSupported = .ok ())
    (h : ∀ name ∈ assigned, p.operation = .update ∧ isKeyField p name = false) :
    (skeleton p.operation assigned.length others.length).toList.count '?' =
      (assigned ++ others).length := by
  have hassigned (hne : p.operation ≠ .update) : assigned.length = 0 := by
    rw [List.length_eq_zero_iff, List.eq_nil_iff_forall_not_mem]
    exact fun name hname => hne (h name hname).1
  rw [List.length_append]
  cases hop : p.operation with
  | insert => simp [skeleton, count_insertSkeleton, hassigned, hop]
  | update => exact count_updateSkeleton _ _
  | delete => simp [skeleton, count_deleteSkeleton, hassigned, hop]
  | select => simp [skeleton, count_selectSkeleton, hassigned, hop]
  | unsupported word => simp [hop, Operation.ensureSupported] at hsupported

/-- The placeholders and the parameters follow from the text and the partition of the fields. -/
theorem ReadBack.statementOf {assigned others : List String}
    {text : (String → List Char) → List Char}
    (hsupported : p.operation.ensureSupported = .ok ())
    (htext : ∃ ps, pieces? (text placeholder) = some ps ∧
      outline ps = (skeleton p.operation assigned.length others.length).toList ∧
      literals ps = ('"', p.table) :: (assigned ++ others).map fun name => ('\'', name))
    (hfields : (assigned ++ others).Perm item.names)
    (hassigned : assigned.Pairwise Text.BytewiseLE) (hothers : others.Pairwise Text.BytewiseLE)
    (hupdate : ∀ name ∈ assigned, p.operation = .update ∧ isKeyField p name = false)
    (hkeys : p.operation = .update → ∀ name ∈ others, isKeyField p name = true) :
    ReadBack p item assigned others (statementOf text (assigned ++ others) item) where
  text := by simpa [Upload.statementOf] using htext
  fields := hfields
  assigned_sorted := hassigned
  others_sorted := hothers
  assigned_of_update := hupdate
  others_of_update := hkeys
  placeholders := by
    obtain ⟨ps, hps, houtline, -⟩ := htext
    have hcount := length_placeholdersFrom_none _ 0 hps
    rw [houtline, count_skeleton hsupported hupdate] at hcount
    simpa [Upload.statementOf, Upload.placeholders, fieldParameters] using hcount
  length_parameters := List.length_map _
  parameter := by
    intro i name hname
    obtain ⟨json, hfind, hvalue⟩ :=
      exists_fieldValue_of_mem (hfields.mem_iff.mp (List.mem_of_getElem? hname))
    refine ⟨json, hfind, ?_⟩
    rw [Upload.statementOf, fieldParameters, List.getElem?_map, hname, ← hvalue]
    rfl

/-- A statement that assigns no fields has them all in order. -/
theorem ReadBack.unassigned {text : (String → List Char) → List Char}
    (hsupported : p.operation.ensureSupported = .ok ()) (hop : p.operation ≠ .update)
    (htext : ∃ ps, pieces? (text placeholder) = some ps ∧
      outline ps = (skeleton p.operation 0 (sortedNames item).length).toList ∧
      literals ps = ('"', p.table) :: (sortedNames item).map fun name => ('\'', name)) :
    ReadBack p item [] (sortedNames item) (Upload.statementOf text (sortedNames item) item) :=
  have hnone : ∀ name ∈ ([] : List String), p.operation = .update ∧ isKeyField p name = false := by
    simp
  .statementOf hsupported htext (sortedNames_perm item) .nil (sortedNames_sorted item) hnone
    (absurd · hop)

theorem buildInsert_readBack (hop : p.operation = .insert) (h : buildInsert p item = .ok built) :
    ReadBack p item [] (sortedNames item) built := by
  unfold buildInsert at h
  split at h
  · cases h
  · obtain rfl := Except.ok.inj h
    refine .unassigned (by rw [hop]; rfl) (by simp [hop]) ?_
    rw [hop]
    exact (readsAs_insertText p.table _).exists_pieces

theorem buildDelete_readBack (hop : p.operation = .delete) (h : buildDelete p item = .ok built) :
    ReadBack p item [] (sortedNames item) built := by
  unfold buildDelete at h
  split at h
  · cases h
  · obtain rfl := Except.ok.inj h
    refine .unassigned (by rw [hop]; rfl) (by simp [hop]) ?_
    rw [hop]
    exact (readsAs_deleteText p.table _).exists_pieces

theorem buildSelect_readBack (hop : p.operation = .select) (h : buildSelect p item = .ok built) :
    ReadBack p item [] (sortedNames item) built := by
  obtain rfl := Except.ok.inj h
  refine .unassigned (by rw [hop]; rfl) (by simp [hop]) ?_
  rw [hop]
  exact pieces?_selectText p.table _

theorem buildStatement_of_update (hop : p.operation = .update) (htemplate : p.template? = none) :
    buildStatement p item = buildUpdate p item := by
  simp [buildStatement, hop, htemplate]

theorem buildUpdate_eq_ok_iff {names : List String} (hnames : sortedNames item = names) :
    buildUpdate p item = .ok built ↔
      names.filter (isKeyField p) ≠ [] ∧ names.filter (fun name => !isKeyField p name) ≠ [] ∧
        Upload.statementOf (updateText p.table (names.filter fun name => !isKeyField p name)
          (names.filter (isKeyField p)))
          ((names.filter fun name => !isKeyField p name) ++ names.filter (isKeyField p)) item =
            built := by
  subst hnames
  unfold buildUpdate
  simp only [List.isEmpty_iff]
  split
  · next hnone =>
    have hnames : sortedNames item = [] := by simp [sortedNames, hnone, Entries.names]
    simp [hnames]
  · split
    · next hkeys => simp [hkeys]
    · next hkeys =>
      split
      · next hassigned => simp [hassigned]
      · next hassigned => simp [hkeys, hassigned]

/-- The names are parted into keys and others without changing the order within either part. -/
theorem buildUpdate_readBack (hop : p.operation = .update) (h : buildUpdate p item = .ok built) :
    ReadBack p item ((sortedNames item).filter fun name => !isKeyField p name)
      ((sortedNames item).filter (isKeyField p)) built := by
  have hparted := List.filter_append_perm (isKeyField p) (sortedNames item)
  obtain ⟨-, -, rfl⟩ := (buildUpdate_eq_ok_iff rfl).mp h
  refine .statementOf (by rw [hop]; rfl) ?_ ?_ ((sortedNames_sorted item).filter _)
    ((sortedNames_sorted item).filter _) ?_ ?_
  · rw [hop]
    exact (readsAs_updateText p.table _ _).exists_pieces
  · exact (List.perm_append_comm.trans hparted).trans (sortedNames_perm item)
  · intro name hname
    exact ⟨hop, by simpa using (List.mem_filter.mp hname).2⟩
  · intro _ name hname
    exact (List.mem_filter.mp hname).2

end Builders

/-- A generated statement reads back as the text of its operation with the names that were put into
it, whatever characters these have. -/
theorem buildStatement_readBack {p : Preset} {item : Item} {built : BuiltStatement}
    (hgenerated : p.operation = .insert ∨ p.template? = none)
    (h : buildStatement p item = .ok built) :
    ∃ assigned others, ReadBack p item assigned others built := by
  have htemplate (hne : p.operation ≠ .insert) : p.template? = none := hgenerated.resolve_left hne
  cases hop : p.operation with
  | insert =>
    have hbuilt : buildInsert p item = .ok built := by simpa [buildStatement, hop] using h
    exact ⟨_, _, buildInsert_readBack hop hbuilt⟩
  | update =>
    have hbuilt : buildUpdate p item = .ok built := by
      simpa [buildStatement, hop, htemplate (by simp [hop])] using h
    exact ⟨_, _, buildUpdate_readBack hop hbuilt⟩
  | delete =>
    have hbuilt : buildDelete p item = .ok built := by
      simpa [buildStatement, hop, htemplate (by simp [hop])] using h
    exact ⟨_, _, buildDelete_readBack hop hbuilt⟩
  | select =>
    have hbuilt : buildSelect p item = .ok built := by
      simpa [buildStatement, hop, htemplate (by simp [hop])] using h
    exact ⟨_, _, buildSelect_readBack hop hbuilt⟩
  | unsupported word => simp [buildStatement, hop] at h

theorem buildStatement_readBack_of_quotes :
    let p : Preset :=
      { table := "a\"?", operation := .update, schema := [{ name := "it's", required := true }] }
    let item : Item := [("it's", .string "?"), ("\"''", .null), ("", .bool true)]
    (p.operation = .insert ∨ p.template? = none) ∧ ∃ built, buildStatement p item = .ok built ∧
      ∃ assigned others, ReadBack p item assigned others built := by
  intro p item
  have hgenerated : p.operation = .insert ∨ p.template? = none := .inr (by decide)
  have hnames : sortedNames item = ["", "\"''", "it's"] := by
    simp [sortedNames, item, List.mergeSort]
  have hbuilt : ∃ built, buildUpdate p item = .ok built := by
    rw [buildUpdate, hnames]
    exact ⟨_, rfl⟩
  obtain ⟨built, hbuilt⟩ := hbuilt
  exact ⟨hgenerated, built, hbuilt, buildStatement_readBack hgenerated hbuilt⟩

end ItemStore.Upload
