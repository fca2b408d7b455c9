import GridUnion.Journal
import GridUnion.Value

/-!
# Entries of a catalogue

An entry describes a dataset: its id, its children in order, and perhaps a title and the name of the
merged axis.  `DatasetEntry.ofValue` reads an entry from a mapping.
-/

namespace GridUnion

/-- A child of a dataset: where it is, and perhaps a name. -/
structure ChildEntry where
  path : String
  name : Value
  deriving Repr, Inhabited

/-- The description of a dataset. -/
structure DatasetEntry where
  id : String
  children : List ChildEntry
  title : Value
  axis : Value
  /-- The directory from which the paths of children are taken first. -/
  base : Option String
  deriving Repr, Inhabited

/-- The plain text of a value in an entry. -/
def Value.entryText (v : Value) : Except Failure String :=
  if v.isTooLong then .error .numberTooLong else .ok v.plain

namespace ChildEntry

/-- Reads a child of the dataset `id`: a path, or a mapping with a path and perhaps a name. -/
def ofValue (id : String) (v : Value) : Except Failure ChildEntry :=
  match v.opened with
  | .text path => .ok ⟨path, .null⟩
  | .dict entries =>
    match Value.lookup? (.text "path") entries with
    | some path => do
      return ⟨← path.entryText, (Value.lookup? (.text "name") entries).getD .null⟩
    | none => .error (.childWithoutPath id)
  | _ => .error (.childWithoutPath id)

end ChildEntry

namespace DatasetEntry

/-- The keys that an entry may have. -/
def knownKeys : List String := ["dataset_id", "children", "title", "axis"]

/-- The keys of an entry that have no meaning, sorted. -/
def unknownKeys (entries : List (Value × Value)) : Except Failure (List String) := do
  let unknown := entries.filter fun (k, _) => !knownKeys.any fun known => k.equals (.text known)
  let names ← unknown.mapM fun (k, _) => k.entryText
  return names.mergeSort fun a b => decide (a ≤ b)

/-- Reads an entry. -/
def ofValue (v : Value) (base : Option String) : Noted DatasetEntry := do
  match v.opened with
  | .dict entries =>
    let get (key : String) : Value := (Value.lookup? (.text key) entries).getD .null
    match Value.lookup? (.text "dataset_id") entries with
    | none => (Except.error .entryWithoutId : Except Failure DatasetEntry)
    | some id =>
      let id ← (id.entryText : Except Failure String)
      let children := get "children"
      if !children.isSomething then
        (Except.error (.entryWithoutChildren id) : Except Failure DatasetEntry)
      else match children.opened with
        | .list items =>
          let unknown ← (unknownKeys entries : Except Failure (List String))
          if !unknown.isEmpty then
            Noted.note .warning .catalogue
              ("Dataset " ++ id ++ ": ignoring unknown keys " ++ ", ".intercalate unknown)
          let children ← items.mapM fun c => (ChildEntry.ofValue id c : Except Failure ChildEntry)
          return ⟨id, children, get "title", get "axis", base⟩
        | _ => (Except.error (.entryChildrenNotAList id) : Except Failure DatasetEntry)
  | _ =>
    let failure := if v.isTooLong then .numberTooLong else .entryNotAMapping v
    (Except.error failure : Except Failure DatasetEntry)

end DatasetEntry

end GridUnion
