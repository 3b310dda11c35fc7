import ItemStore.Error
import ItemStore.Toml.Reader

/-! # Settings documents

Settings are written in JSON or in TOML, and read alike from both.
-/
namespace ItemStore
open Json (Decoder)

inductive DocumentFormat
  | json
  | toml
  deriving DecidableEq, Repr

namespace DocumentFormat

/-- Reads a document as a value of type `α`. -/
def read {α : Type} (format : DocumentFormat) (decoder : Decoder α) (text : String) :
    Except Failure α :=
  let value := match format with
    | .json => decoder.run (Text.symbolsOf text)
    | .toml => (Toml.read? text).bind (decoder Json.maxLevels)
  match value with
  | some a => .ok a
  | none => .error (.configuration "no such settings")

end DocumentFormat

end ItemStore
