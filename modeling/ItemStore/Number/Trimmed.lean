import ItemStore.Json.Basic
import ItemStore.Number.Notation

/-! # Six decimal places without trailing zeros -/
namespace ItemStore.Number

/-- The text without the given character at its end. -/
def dropEnd (c : Char) (text : List Char) : List Char :=
  (text.reverse.dropWhile (· == c)).reverse

/-- Six decimal places, less the zeros at the end and then the point. -/
def trimmedText (x : Binary64) : List Char :=
  let text := dropEnd '.' (dropEnd '0' (x.fixedText 6))
  if text.isEmpty then ['0'] else text

end ItemStore.Number

namespace ItemStore

/-- A signed 64-bit integer in full, any other number with at most six decimal places. -/
def JsonNumber.trimmedText (n : JsonNumber) : List Char :=
  match n.int64? with
  | some i => Number.intText i
  | none => Number.trimmedText n.toFloat

end ItemStore
