import ItemStore.Json.Record

/-! # Limits of a collection

A collection of rows ends at the first bound that it meets. An installation may set its own bounds,
and the table by which it tests the connection.
-/
namespace ItemStore
open Json (Decoder Record)

structure Limits where
  maxPages : Nat := 1000
  maxItems : Nat := 1000000
  maxDurationMs : Nat := 60000
  deriving DecidableEq, Repr

structure EngineSettings where
  /-- The table that is described to test the connection. -/
  testTable : String := ""
  limits : Limits := {}
  deriving DecidableEq, Repr

namespace Limits

/-- How long a collection may take, in nanoseconds. -/
def budget (limits : Limits) : Nat := limits.maxDurationMs * 1000000

def toJson (limits : Limits) : Json :=
  .object [
    ("maxPages", .ofNat limits.maxPages),
    ("maxItems", .ofNat limits.maxItems),
    ("maxDurationMs", .ofNat limits.maxDurationMs)]

def read : Decoder Limits := fun levels w => do
  let defaults : Limits := {}
  let r ← Record.ofWritten? ["maxPages", "maxItems", "maxDurationMs"] levels w
  let maxPages ← r.withDefault "maxPages" defaults.maxPages .nat32
  let maxItems ← r.withDefault "maxItems" defaults.maxItems .nat64
  let maxDurationMs ← r.withDefault "maxDurationMs" defaults.maxDurationMs .nat64
  some { maxPages, maxItems, maxDurationMs }

end Limits

namespace EngineSettings

def toJson (settings : EngineSettings) : Json :=
  .object [
    ("connectionTestTable", .string settings.testTable),
    ("collector", settings.limits.toJson)]

def read : Decoder EngineSettings := fun levels w => do
  let r ← Record.ofWritten? ["connectionTestTable", "collector"] levels w
  let testTable ← r.withDefault "connectionTestTable" "" .text
  let limits ← r.withDefault "collector" {} Limits.read
  some { testTable, limits }

end EngineSettings

end ItemStore
