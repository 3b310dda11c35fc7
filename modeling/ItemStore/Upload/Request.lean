import ItemStore.Upload.Preset
import ItemStore.Text.Utf8

/-! # Upload requests

A request names a preset and carries the items. Stray control bytes in its body are dropped before
it is read.
-/
namespace ItemStore.Upload
open Json (Decoder Record)

structure UploadRequest where
  presetId : String := ""
  items : List Json := []
  dryRun : Bool := false
  mode : Option String := none
  deriving Repr

/-- Drops the control bytes other than tab, line feed and carriage return. -/
def dropControls (body : List UInt8) : List UInt8 :=
  body.filter fun b => b == 0x09 || b == 0x0A || b == 0x0D || 0x20 ≤ b

theorem dropControls_idem (body : List UInt8) : dropControls (dropControls body) = dropControls body := by
  simp [dropControls]

namespace UploadRequest

def toJson (r : UploadRequest) : Json :=
  present [
    (true, "presetId", .string r.presetId),
    (true, "items", .array r.items),
    (r.dryRun, "dryRun", .bool true),
    (r.mode.isSome, "mode", .string (r.mode.getD ""))]

def read : Decoder UploadRequest := fun levels w => do
  let r ← Record.ofWritten? ["presetId", "items", "dryRun", "mode"] levels w
  let presetId ← r.withDefault "presetId" "" .text
  let items ← r.withDefault "items" [] (.list .value)
  let dryRun ← r.withDefault "dryRun" false .flag
  let mode ← r.withDefault "mode" none (.optional .text)
  some { presetId, items, dryRun, mode }

/-- The request of a body. What a reader finds wrong with any other body is not told, and "no upload
request" stands for it. -/
def ofBody (body : List UInt8) : Except Failure UploadRequest :=
  if body.isEmpty then .error (.validation "request body is required")
  else match read.run (Text.symbols (dropControls body)) with
    | some request => .ok request
    | none => .error (.validation "invalid request payload: no upload request")

end UploadRequest

end ItemStore.Upload
