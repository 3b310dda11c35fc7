import ItemStore.Text.Search

/-! # Texts with quoted literals

A quote opens a literal, and the next quote of its kind closes it, unless that one is doubled: then
it stands for itself and the literal goes on. What is enclosed by doubling the quotes inside it is
read back as it was, whatever characters it has, as long as no further quote of the kind follows.
-/
namespace ItemStore.Text

/-- A character outside literals, or a literal by the kind of its quotes and what it stands for. -/
inductive Piece
  | plain (c : Char)
  | literal (mark : Char) (text : String)
  deriving DecidableEq, Repr

/-- A quote of one of the two kinds. -/
def isMark (c : Char) : Bool := c == '\'' || c == '"'

mutual

def pieces? : List Char → Option (List Piece)
  | [] => some []
  | c :: rest => if isMark c then literal? c [] rest else (pieces? rest).map (.plain c :: ·)

def literal? (mark : Char) (read : List Char) : List Char → Option (List Piece)
  | [] => none
  | [c] => if c = mark then some [.literal mark (String.ofList read)] else none
  | c :: d :: rest =>
    if c ≠ mark then literal? mark (read ++ [c]) (d :: rest)
    else if d = mark then literal? mark (read ++ [mark]) rest
    else (pieces? (d :: rest)).map (.literal mark (String.ofList read) :: ·)

end

/-- The text outside literals, each literal being left with nothing between its quotes. -/
def outline : List Piece → List Char
  | [] => []
  | .plain c :: rest => c :: outline rest
  | .literal mark _ :: rest => mark :: mark :: outline rest

def literals : List Piece → List (Char × String)
  | [] => []
  | .plain _ :: rest => literals rest
  | .literal mark text :: rest => (mark, text) :: literals rest

theorem outline_append (ps qs : List Piece) : outline (ps ++ qs) = outline ps ++ outline qs := by
  induction ps with
  | nil => rfl
  | cons p ps ih => cases p <;> simp [outline, ih]

theorem literals_append (ps qs : List Piece) : literals (ps ++ qs) = literals ps ++ literals qs := by
  induction ps with
  | nil => rfl
  | cons p ps ih => cases p <;> simp [literals, ih]

theorem pieces?_cons_of_not_isMark {c : Char} (h : isMark c = false) (rest : List Char) :
    pieces? (c :: rest) = (pieces? rest).map (.plain c :: ·) := by
  rw [pieces?, if_neg (by simp [h])]

/-- Within a literal its quotes come in pairs, and the first one without a second closes it. -/
theorem literal?_replaceChar (mark : Char) (read text : List Char) {rest : List Char}
    (h : rest.head? ≠ some mark) :
    literal? mark read (replaceChar mark [mark, mark] text ++ mark :: rest) =
      (pieces? rest).map (.literal mark (String.ofList (read ++ text)) :: ·) := by
  induction text generalizing read with
  | nil =>
    rw [List.append_nil]
    cases rest with
    | nil => simp [replaceChar, literal?, pieces?]
    | cons d rest =>
      have hd : d ≠ mark := by simpa using h
      simp [replaceChar, literal?, hd]
  | cons c text ih =>
    have hread : read ++ c :: text = read ++ [c] ++ text := by simp
    by_cases hc : c = mark
    · subst hc
      rw [hread, ← ih]
      simp [replaceChar, literal?]
    · have hstep (d : Char) (more : List Char) :
          literal? mark read (c :: d :: more) = literal? mark (read ++ [c]) (d :: more) := by
        rw [literal?, if_pos hc]
      have hnext : ∃ d more, replaceChar mark [mark, mark] text ++ mark :: rest = d :: more :=
        List.exists_cons_of_ne_nil (by simp)
      obtain ⟨d, more, hmore⟩ := hnext
      rw [hread, ← ih, hmore, ← hstep, ← hmore]
      simp [replaceChar, hc]

theorem pieces?_enclosed_append {mark : Char} (hmark : isMark mark = true) (text : String)
    {rest : List Char} (h : rest.head? ≠ some mark) :
    pieces? (enclosed mark text ++ rest) = (pieces? rest).map (.literal mark text :: ·) := by
  have henclosed : enclosed mark text ++ rest =
      mark :: (replaceChar mark [mark, mark] text.toList ++ mark :: rest) := by
    simp [enclosed]
  rw [henclosed, pieces?, if_pos hmark, literal?_replaceChar mark [] _ h, List.nil_append,
    String.ofList_toList]

/-- The text reads the same whatever follows it, with that outline and those literals. -/
def ReadsAs (text outside : List Char) (quoted : List (Char × String)) : Prop :=
  ∃ ps, outline ps = outside ∧ literals ps = quoted ∧
    ∀ rest, pieces? (text ++ rest) = (pieces? rest).map (ps ++ ·)

namespace ReadsAs
variable {text more outside outsideMore : List Char} {quoted quotedMore : List (Char × String)}

theorem append (h : ReadsAs text outside quoted) (hmore : ReadsAs more outsideMore quotedMore) :
    ReadsAs (text ++ more) (outside ++ outsideMore) (quoted ++ quotedMore) := by
  obtain ⟨ps, rfl, rfl, hps⟩ := h
  obtain ⟨qs, rfl, rfl, hqs⟩ := hmore
  refine ⟨ps ++ qs, outline_append ps qs, literals_append ps qs, fun rest => ?_⟩
  rw [List.append_assoc, hps, hqs, Option.map_map]
  congr 1
  funext later
  simp

theorem plain (h : ∀ c ∈ text, isMark c = false) : ReadsAs text text [] := by
  induction text with
  | nil => exact ⟨[], rfl, rfl, by simp⟩
  | cons c text ih =>
    obtain ⟨hc, htext⟩ := List.forall_mem_cons.mp h
    obtain ⟨ps, houtline, hliterals, hps⟩ := ih htext
    refine ⟨.plain c :: ps, by rw [outline, houtline], hliterals, fun rest => ?_⟩
    rw [List.cons_append, pieces?_cons_of_not_isMark hc, hps, Option.map_map]
    rfl

theorem literal {mark : Char} (hmark : isMark mark = true) (name : String)
    (h : ∀ c ∈ text, isMark c = false) (hne : text ≠ []) :
    ReadsAs (enclosed mark name ++ text) (mark :: mark :: text) [(mark, name)] := by
  obtain ⟨ps, houtline, hliterals, hps⟩ := plain h
  refine ⟨.literal mark name :: ps, by rw [outline, houtline], by rw [literals, hliterals],
    fun rest => ?_⟩
  have hhead : (text ++ rest).head? ≠ some mark := by
    obtain ⟨c, text, rfl⟩ := List.exists_cons_of_ne_nil hne
    rintro ⟨rfl⟩
    rw [h mark (by simp)] at hmark
    cases hmark
  rw [List.append_assoc, pieces?_enclosed_append hmark name hhead, hps, Option.map_map]
  rfl

theorem exists_pieces (h : ReadsAs text outside quoted) :
    ∃ ps, pieces? text = some ps ∧ outline ps = outside ∧ literals ps = quoted := by
  obtain ⟨ps, houtline, hliterals, hps⟩ := h
  refine ⟨ps, ?_, houtline, hliterals⟩
  simpa [pieces?] using hps []

theorem exists_pieces_enclosed (h : ReadsAs text outside quoted) {mark : Char}
    (hmark : isMark mark = true) (name : String) :
    ∃ ps, pieces? (text ++ enclosed mark name) = some ps ∧ outline ps = outside ++ [mark, mark] ∧
      literals ps = quoted ++ [(mark, name)] := by
  obtain ⟨ps, houtline, hliterals, hps⟩ := h
  have hend : ([] : List Char).head? ≠ some mark := by simp
  have hlast : pieces? (enclosed mark name) = some [.literal mark name] := by
    simpa [pieces?] using pieces?_enclosed_append hmark name hend
  refine ⟨ps ++ [.literal mark name], by rw [hps, hlast]; rfl, ?_, ?_⟩
  · rw [outline_append, houtline]
    rfl
  · rw [literals_append, hliterals]
    rfl

end ReadsAs

end ItemStore.Text
