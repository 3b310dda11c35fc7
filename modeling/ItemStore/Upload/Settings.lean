import ItemStore.Upload.Preset

/-! # Upload settings

The presets and the payload cap that an installation configures.
-/
namespace ItemStore.Upload
open Json (Decoder Record)

structure Settings where
  presets : List Preset := []
  /-- The payload cap in KB; none is set if it is not positive. -/
  maxPayloadKB : Int := 0
  deriving DecidableEq, Repr

namespace Settings

def missing (id : String) : Failure :=
  .notFound ("upload preset " ++ Text.quoted id ++ " not found")

/-- The first preset of that id. A cap that it does not set is the installation's. -/
def find (settings : Settings) (id : String) : Except Failure Preset :=
  match settings.presets.find? (·.id = id) with
  | none => .error (missing id)
  | some p =>
    .ok (if p.maxPayloadKB ≤ 0 then { p with maxPayloadKB := settings.maxPayloadKB } else p)

def toJson (settings : Settings) : Json :=
  .object [
    ("uploadPresets", .array (settings.presets.map Preset.toJson)),
    ("maxUploadPayloadKB", .ofInt settings.maxPayloadKB)]

def read : Decoder Settings := fun levels w => do
  let r ← Record.ofWritten? ["uploadPresets", "maxUploadPayloadKB"] levels w
  let presets ← r.withDefault "uploadPresets" [] (.list Preset.read)
  let maxPayloadKB ← r.withDefault "maxUploadPayloadKB" 0 .int64
  some { presets, maxPayloadKB }

end Settings

end ItemStore.Upload
