import ItemStore.Store
import ItemStore.Upload.Preset

/-! # Capacity totals

The capacity that a run of statements consumed, summed for each table in the order of the table
names. A report that names no table counts for the empty name.
-/
namespace ItemStore.Upload
open Number (Binary64)
open Json (Decoder Record)

structure CapacityTotal where
  table : String := ""
  units : Binary64 := .zero
  readUnits : Binary64 := .zero
  writeUnits : Binary64 := .zero
  /-- Reports that name the table and say that nothing was consumed. -/
  throttled : Nat := 0
  deriving DecidableEq, Repr

namespace CapacityTotal

def add (total : CapacityTotal) (report : Capacity) : CapacityTotal :=
  { total with
    units := total.units.add (report.units.getD .zero)
    readUnits := total.readUnits.add (report.readUnits.getD .zero)
    writeUnits := total.writeUnits.add (report.writeUnits.getD .zero)
    throttled := total.throttled +
      if report.table.isSome && (report.units.any Binary64.isZero) then 1 else 0 }

def toJson (t : CapacityTotal) : Json :=
  present [
    (t.table ≠ "", "tableName", .string t.table),
    (true, "capacityUnits", .ofFloat t.units),
    (!t.readUnits.isZero, "readUnits", .ofFloat t.readUnits),
    (!t.writeUnits.isZero, "writeUnits", .ofFloat t.writeUnits),
    (t.throttled ≠ 0, "throttleEvents", .ofNat t.throttled)]

def read : Decoder CapacityTotal := fun levels w => do
  let r ← Record.ofWritten?
    ["tableName", "capacityUnits", "readUnits", "writeUnits", "throttleEvents"] levels w
  let table ← r.required "tableName" .text
  let units ← r.required "capacityUnits" .float
  let readUnits ← r.required "readUnits" .float
  let writeUnits ← r.required "writeUnits" .float
  let throttled ← r.required "throttleEvents" .nat64
  some { table, units, readUnits, writeUnits, throttled }

end CapacityTotal

/-- The totals with one report counted in, kept in ascending order of the table names. -/
def countReport (report : Capacity) : List CapacityTotal → List CapacityTotal
  | [] => [({ table := report.table.getD "" } : CapacityTotal).add report]
  | t :: rest =>
    let name := report.table.getD ""
    if name = t.table then t.add report :: rest
    else if name < t.table then ({ table := name } : CapacityTotal).add report :: t :: rest
    else t :: countReport report rest

def capacityTotals (reports : List Capacity) : List CapacityTotal :=
  reports.foldl (fun totals report => countReport report totals) []

end ItemStore.Upload
