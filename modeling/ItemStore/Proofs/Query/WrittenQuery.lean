import ItemStore.Proofs.Json.WrittenRecord
import ItemStore.Query.Basic

/-! # Queries written and read

A query that was read has a limit of at least one or none, and a direction that has a word. With
these it is read again as it is written.
-/
namespace ItemStore
open Json (Decoder Record)
open Json.Decoder

@[simp] theorem Direction.ofWord_word (direction : Direction) : ofWord direction.word = direction := by
  cases direction <;> rfl

theorem TimeAttribute.restores (a : TimeAttribute) (levels : Nat) :
    read.Restores (levels + 1) a.toJson a := by
  let fields := [("name", Json.string a.name), ("format", Json.string a.hint)]
  have hname := Record.required_ofFields fields "name" (by simp [fields]) (restores_text a.name levels)
  have hhint := Record.withDefault_ofFields fields "format" "" (by simp [fields])
    (restores_text a.hint levels)
  refine Record.restores_object fields (by simp [fields]) (by simp [fields]) ?_ ?_
  · simpa [fields] using ⟨.string a.name, .string a.hint⟩
  · simp only [Option.bind_eq_bind, Option.bind_some, hname, hhint]

namespace Query

def LimitSettled (limit : Option Nat) : Prop := ∀ n ∈ limit, 0 < n ∧ Number.fitsInt64 n = true

theorem settled_of_readLimit {levels : Nat} {w : Json.Written} {limit : Option Nat}
    (h : readLimit levels w = some limit) : LimitSettled limit := by
  obtain ⟨given, hgiven, rfl⟩ := Option.map_eq_some_iff.mp h
  rintro n hn
  obtain ⟨i, hi, rfl⟩ := Option.map_eq_some_iff.mp hn
  obtain ⟨hread, hpositive⟩ := Option.filter_eq_some_iff.mp hi
  have hfits : Number.fitsInt64 i = true := by
    unfold Decoder.optional at hgiven
    split at hgiven
    · cases hgiven
      cases hread
    · subst hread
      obtain ⟨j, hj, heq⟩ := Option.map_eq_some_iff.mp hgiven
      cases heq
      exact fitsInt64_of_int64 hj
  have hpositive : 0 < i := of_decide_eq_true hpositive
  have hcast : ((i.toNat : Nat) : Int) = i := Int.toNat_of_nonneg (Int.le_of_lt hpositive)
  rw [hcast]
  exact ⟨by omega, hfits⟩

theorem restores_limit {limit : Option Nat} (h : LimitSettled limit) (levels : Nat) :
    readLimit.Restores levels (orNull .ofNat limit) limit := by
  cases limit with
  | none => exact restores_null.map _
  | some n =>
    obtain ⟨hpositive, hfits⟩ := h n rfl
    have hread := ((restores_int64 hfits levels).optional rfl).map
      fun limit => (limit.filter (0 < ·)).map Int.toNat
    have hkept : Option.filter (0 < ·) (some (n : Int)) = some (n : Int) := by
      simp [Option.filter, hpositive]
    rw [hkept] at hread
    exact hread

theorem restores_orNull {α : Type} {read : Decoder α} {encode : α → Json} {levels : Nat}
    (h : ∀ a, read.Restores levels (encode a) a) (hjson : ∀ a, (encode a).isNull = false)
    (value : Option α) : (Decoder.optional read).Restores levels (orNull encode value) value := by
  cases value with
  | none => exact restores_null
  | some a => exact (h a).optional (hjson a)

theorem restores_direction (direction : Direction) (levels : Nat) :
    Direction.read.Restores levels (.string direction.word) direction := by
  have hread := ((restores_text direction.word levels).optional rfl).map
    fun word => Direction.ofWord (word.getD "")
  rwa [Option.getD_some, Direction.ofWord_word] at hread

theorem restores {query : Query} (h : LimitSettled query.limit) (levels : Nat) :
    read.Restores (levels + 3) query.toJson query := by
  let fields := [
    ("queryText", Json.string query.statement),
    ("limit", orNull .ofNat query.limit),
    ("datetimeAttributes", Json.array (query.timeAttributes.map TimeAttribute.toJson)),
    ("sortKey", orNull .string query.sortKey),
    ("sortBy", orNull .string query.sortBy),
    ("sortDirection", Json.string query.direction.word),
    ("scanIndexForward", orNull .bool query.scanForward)]
  have hstatement := restores_text query.statement (levels + 2)
  have hlimit := restores_limit h (levels + 2)
  have htimes := restores_list query.timeAttributes fun a _ => a.restores levels
  have hkey := restores_orNull (fun s => restores_text s (levels + 2)) (fun _ => rfl) query.sortKey
  have hby := restores_orNull (fun s => restores_text s (levels + 2)) (fun _ => rfl) query.sortBy
  have hdirection := restores_direction query.direction (levels + 2)
  have hforward := restores_orNull (fun b => restores_flag b (levels + 2)) (fun _ => rfl)
    query.scanForward
  refine Record.restores_object fields (by simp [fields]) (by simp [fields]) ?_ ?_
  · simpa [fields] using ⟨hstatement.inRange, hlimit.inRange, htimes.inRange, hkey.inRange, hby.inRange,
      hdirection.inRange, hforward.inRange⟩
  · simp only [Option.bind_eq_bind, Option.bind_some,
      Record.withDefault_ofFields fields "queryText" "" (by simp [fields]) hstatement,
      Record.withDefault_ofFields fields "limit" none (by simp [fields]) hlimit,
      Record.withDefault_ofFields fields "datetimeAttributes" [] (by simp [fields]) htimes,
      Record.withDefault_ofFields fields "sortKey" none (by simp [fields]) hkey,
      Record.withDefault_ofFields fields "sortBy" none (by simp [fields]) hby,
      Record.withDefault_ofFields fields "sortDirection" .ascending (by simp [fields]) hdirection,
      Record.withDefault_ofFields fields "scanIndexForward" none (by simp [fields]) hforward]

theorem settled_of_read {levels : Nat} {w : Json.Written} {query : Query}
    (h : read levels w = some query) : LimitSettled query.limit := by
  simp only [read, Option.bind_eq_bind, Option.bind_eq_some_iff] at h
  obtain ⟨record, -, statement, -, limit, hlimit, times, -, key, -, sortBy, -, direction, -, forward, -,
    h⟩ := h
  cases h
  rcases Record.exists_of_withDefault hlimit with ⟨w, -, hread⟩ | rfl
  · exact settled_of_readLimit hread
  · rintro n ⟨⟩

end Query

end ItemStore
