import ItemStore.Proofs.Json.RawControls
import ItemStore.Proofs.Text.EncodedSymbols
import ItemStore.Proofs.Text.LetterCase
import ItemStore.Upload.Request

/-! # Request bodies without stray controls

A body that is a request as it stands has no control to drop. In any body only bytes of one kind are
dropped, none of which is part of a character of more bytes than one.
-/
namespace ItemStore.Upload

def withoutControls (text : String) : String :=
  String.ofList (text.toList.filter fun c => Json.isSpace c || 0x20 ≤ c.toNat)

theorem dropControls_append (front back : List UInt8) :
    dropControls (front ++ back) = dropControls front ++ dropControls back :=
  List.filter_append ..

/-- What is dropped is ASCII, and no character of a JSON text. -/
theorem dropControls_eq_self {body : List UInt8}
    (h : ∀ b ∈ body, b < 0x80 → Json.Allowed (some (Char.ofNat b.toNat))) :
    dropControls body = body := by
  refine List.filter_eq_self.mpr fun b hb => ?_
  by_cases hascii : b < 0x80
  · have hkept : ∀ n < 0x80, Json.isSpace (Char.ofNat n) = true ∨ 0x20 ≤ (Char.ofNat n).toNat →
        (UInt8.ofNat n == 0x09 || UInt8.ofNat n == 0x0A || UInt8.ofNat n == 0x0D ||
          decide (0x20 ≤ UInt8.ofNat n)) = true := by
      decide +kernel
    have hbyte := hkept b.toNat hascii (h b hb hascii _ rfl)
    rwa [UInt8.ofNat_toNat] at hbyte
  · have hhigh : 0x20 ≤ b := UInt8.le_trans (by decide) (UInt8.not_lt.mp hascii)
    simp [hhigh]

theorem dropControls_of_ge {body : List UInt8} (h : ∀ b ∈ body, 0x80 ≤ b) :
    dropControls body = body :=
  dropControls_eq_self fun b hb hascii => absurd hascii (UInt8.not_lt.mpr (h b hb))

/-- A body that is a JSON text holds no byte that is dropped. -/
theorem dropControls_of_read? {body : List UInt8} {w : Json.Written}
    (h : Json.Written.read? (Text.symbols body) = some w) : dropControls body = body :=
  dropControls_eq_self fun _ hb hascii =>
    Json.allowed_of_read? h _ (Text.mem_symbols_of_ascii hb hascii)

/-- A character goes as a whole. -/
theorem dropControls_encode (c : Char) :
    dropControls (String.utf8EncodeChar c) =
      if Json.isSpace c || 0x20 ≤ c.toNat then String.utf8EncodeChar c else [] := by
  by_cases hascii : c.toNat < 0x80
  · exact Text.of_toNat_lt hascii (by decide +kernel)
  · have hkept : (Json.isSpace c || decide (0x20 ≤ c.toNat)) = true := by
      simp
      omega
    rw [if_pos hkept, dropControls_of_ge (Text.le_of_mem_encode (Nat.le_of_not_lt hascii))]

theorem dropControls_bytes (text : String) :
    dropControls (Text.bytes text) = Text.bytes (withoutControls text) := by
  rw [Text.bytes_eq_flatMap, Text.bytes_eq_flatMap, withoutControls, String.toList_ofList]
  induction text.toList with
  | nil => rfl
  | cons c cs ih =>
    rw [List.flatMap_cons, dropControls_append, dropControls_encode, ih, List.filter_cons]
    split
    · rw [List.flatMap_cons]
    · rfl

namespace UploadRequest

/-- A body that is a request as it stands is left as it is, and it is read as that request. In any
body a second time drops nothing, a character beyond ASCII stays as a whole wherever it stands, and
a text loses controls and nothing else. -/
theorem ofBody_of_read (body : List UInt8) :
    (∀ request, read.run (Text.symbols body) = some request →
      dropControls body = body ∧ ofBody body = .ok request) ∧
    dropControls (dropControls body) = dropControls body ∧
    (∀ before c after, 0x80 ≤ c.toNat → body = before ++ String.utf8EncodeChar c ++ after →
      dropControls body = dropControls before ++ String.utf8EncodeChar c ++ dropControls after) ∧
    ∀ text, body = Text.bytes text → dropControls body = Text.bytes (withoutControls text) ∧
      Text.symbols (dropControls body) = Text.symbolsOf (withoutControls text) := by
  refine ⟨fun request hread => ?_, dropControls_idem body, ?_, ?_⟩
  · obtain ⟨w, hw, -⟩ := Option.bind_eq_some_iff.mp hread
    have hsame := dropControls_of_read? hw
    refine ⟨hsame, ?_⟩
    cases body with
    | nil =>
      rw [Text.symbols_nil] at hw
      cases hw
    | cons b rest =>
      rw [ofBody, hsame, hread]
      rfl
  · rintro before c after hc rfl
    rw [dropControls_append, dropControls_append, dropControls_of_ge (Text.le_of_mem_encode hc)]
  · rintro text rfl
    rw [dropControls_bytes, Text.symbols_bytes]
    exact ⟨rfl, rfl⟩

/-- A request with blanks around its parts and a field that is skipped. -/
theorem ofBody_of_read_of_note :
    let text := "\x7b\t\"presetId\": \"p\",\r\n\"note\": [\"café\"]\x7d"
    let before := Text.bytes "\x7b\t\"presetId\": \"p\",\r\n\"note\": [\"caf"
    let after := Text.bytes "\"]\x7d"
    ∃ request : UploadRequest, request.presetId = "p" ∧
      read.run (Text.symbols (Text.bytes text)) = some request ∧
      dropControls (Text.bytes text) = Text.bytes text ∧ ofBody (Text.bytes text) = .ok request ∧
      0x80 ≤ 'é'.toNat ∧ Text.bytes text = before ++ String.utf8EncodeChar 'é' ++ after ∧
      dropControls (Text.bytes text) =
        dropControls before ++ String.utf8EncodeChar 'é' ++ dropControls after ∧
      dropControls (Text.bytes text) = Text.bytes (withoutControls text) ∧
      Text.symbols (dropControls (Text.bytes text)) = Text.symbolsOf (withoutControls text) := by
  intro text before after
  have hread : (read.run (Text.symbols (Text.bytes text))).map presetId = some "p" := by
    rw [Text.symbols_bytes]
    subst text
    decide +kernel
  have hsplit : Text.bytes text = before ++ String.utf8EncodeChar 'é' ++ after := by
    subst text before after
    decide +kernel
  have hchar : 0x80 ≤ 'é'.toNat := by decide
  obtain ⟨request, hread, hid⟩ := Option.map_eq_some_iff.mp hread
  obtain ⟨hrequest, -, hchars, htext⟩ := ofBody_of_read (Text.bytes text)
  obtain ⟨hsame, hbody⟩ := hrequest request hread
  exact ⟨request, hid, hread, hsame, hbody, hchar, hsplit, hchars before 'é' after hchar hsplit,
    htext text rfl⟩

end UploadRequest

end ItemStore.Upload
