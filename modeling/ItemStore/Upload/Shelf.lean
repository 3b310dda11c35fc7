import ItemStore.Upload.Settings

/-! # Saved presets

Presets are saved under their id. A preset that replaces another takes its place in the order, and
deleting one leaves the order of the others.
-/
namespace ItemStore.Upload

abbrev Shelf := Entries Preset

namespace Shelf

def load (shelf : Shelf) (id : String) : Option Preset := shelf.find? id

def list (shelf : Shelf) : List PresetSummary := shelf.map fun entry => entry.2.summary

/-- The shelf with the preset saved under its id, if it is fit to be saved. -/
def save (shelf : Shelf) (p : Preset) : Except Failure Shelf :=
  p.validateForSave.map fun _ => shelf.put p.id p

/-- The shelf without the preset of that id. -/
def delete (shelf : Shelf) (id : String) : Except Failure Shelf :=
  if shelf.has id then .ok (shelf.remove id)
  else .error (.notFound ("preset " ++ Text.quoted id ++ " not found"))

/-- A change that is asked for. -/
inductive Edit
  | save (p : Preset)
  | delete (id : String)
  deriving DecidableEq, Repr

/-- Makes a change. One that is refused leaves the shelf as it was. -/
def edit (shelf : Shelf) (change : Edit) : Except Failure Unit × Shelf :=
  let changed := match change with
    | .save p => shelf.save p
    | .delete id => shelf.delete id
  (changed.map fun _ => (), changed.toOption.getD shelf)

/-- What an empty shelf comes to by changes one after the other. -/
def after (history : List Edit) : Shelf :=
  history.foldl (fun shelf change => (shelf.edit change).2) []

end Shelf

end ItemStore.Upload
