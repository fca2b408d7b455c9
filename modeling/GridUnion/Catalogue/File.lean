import GridUnion.Catalogue.Entry
import GridUnion.Session
import GridUnion.Yaml.Document

/-!
# Catalogue files

A catalogue is a YAML file: a mapping whose key `datasets` has a list of entries.  The paths of
children are taken from the directory of the file, and no two entries have the same id.
-/

namespace GridUnion.Catalogue

/-- The failure that a fault in a file at a path causes. -/
def failure (path : Path) : Yaml.Fault → Failure
  | .malformed | .ended => .unparsable path.text
  | .undecodable fault => .undecodable fault
  | .badScalar kind text => .badScalar kind text

/-- The value in the bytes of a file. -/
def parse (path : Path) (bytes : List UInt8) : Except Failure Value :=
  (Yaml.read (.ofBytes bytes)).mapError (failure path)

/-- The entries in the value of a file, not yet read. -/
def items (path : Path) (v : Value) : Except Failure (List Value) :=
  match v.opened with
  | .dict entries =>
    match Value.lookup? (.text "datasets") entries with
    | none => .error (.noDatasetList path.text)
    | some datasets =>
      match datasets.opened with
      | .list vs => .ok vs
      | _ => .error (.datasetsNotAList path.text)
  | _ => .error (.noDatasetList path.text)

/-- The ids that occur more than once, sorted. -/
def duplicates (ids : List String) : List String :=
  ((ids.filter fun i => decide (1 < ids.count i)).eraseDups).mergeSort fun a b => decide (a ≤ b)

/-- The entries in the value of a file. -/
def entries (path : Path) (v : Value) : Noted (List DatasetEntry) := do
  let vs ← items path v
  let es ← vs.mapM fun v => DatasetEntry.ofValue v (some path.parent.text)
  let ids := es.map DatasetEntry.id
  if !(duplicates ids).isEmpty then
    (Except.error (.duplicateIds path.text (duplicates ids)) : Except Failure Unit)
  Noted.note .debug .catalogue (s!"Found {es.length} datasets: " ++ ", ".intercalate ids)
  return es

/-- Reads the catalogue at a path. -/
def load (path : String) : Action (List DatasetEntry) := do
  let p := Path.ofString path
  Action.note .info .catalogue ("Loading dataset config from " ++ p.text)
  let bytes ← (← Action.ask fun s => s.files.read p : Except Failure (List UInt8))
  let v ← (parse p bytes : Except Failure Value)
  Action.ofNoted (entries p v)

end GridUnion.Catalogue
