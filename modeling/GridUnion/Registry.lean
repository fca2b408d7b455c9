import GridUnion.Opening
import GridUnion.Catalogue.Entry

/-!
# The registry

The registry publishes datasets under their ids.  A dataset is built whole before it is published,
so a build that fails leaves the registry as it was; a dataset that is replaced stays open for those
who still read it.  Ids are texts; another value can be looked up, but is not found.
-/

namespace GridUnion

/-- A dataset that is published, with a number of its own. -/
structure Published where
  edition : Nat
  dataset : Dataset
  deriving Repr, Inhabited

/-- The published datasets and the entries they were built from, by id. -/
structure Registry where
  datasets : List (String × Published)
  entries : List (String × DatasetEntry)
  /-- The number of datasets that were ever published. -/
  editions : Nat
  deriving Repr, Inhabited

/-- Opens a child: its entry, the name of the merged axis, and the base directory. -/
abbrev Opener := ChildEntry → (axis : Value) → (base : Option String) → Action Child

/-- Opens children from their files. -/
def Opener.fromFiles : Opener := fun child axis base =>
  Child.openFrom child.path child.name axis base

/-- The registry in a session. -/
structure Service where
  registry : Registry
  session : Session
  deriving Inhabited

/-! ### Building a dataset -/

namespace DatasetEntry

/-- What is said about a child that did not open. -/
def warning (number : Nat) (child : ChildEntry) (f : Failure) : String :=
  s!"child #{number} {child.path}: " ++ f.kind.name ++ ": " ++ f.message

/-- Opens the children after the first one, counting from `number`.  One that fails to open is noted
and left out; an interruption is no failure, and is not caught. -/
def openOthers (opener : Opener) (e : DatasetEntry) :
    (number : Nat) → List ChildEntry → Session → (List Child × List String) × Session
  | _, [], s => (([], []), s)
  | number, c :: cs, s =>
    match opener c e.axis e.base s with
    | (.ok child, s) =>
      let ((children, warnings), s) := openOthers opener e (number + 1) cs s
      ((child :: children, warnings), s)
    | (.error f, s) =>
      let skipped : Note :=
        ⟨.error, .registry, "Dataset " ++ e.id ++ s!": skipping child #{number} " ++ c.path⟩
      let s := { s with notes := s.notes ++ [skipped] }
      let ((children, warnings), s) := openOthers opener e (number + 1) cs s
      ((children, warning number c f :: warnings), s)

/-- Opens the children of a dataset.  The first one has to open. -/
def openChildren (opener : Opener) (e : DatasetEntry) : Action (List Child × List String) :=
  match e.children with
  | [] => pure ([], [])
  | c :: cs => fun s =>
    match opener c e.axis e.base s with
    | (.error f, s) => (.error f, s)
    | (.ok first, s) =>
      let ((children, warnings), s) := openOthers opener e 1 cs s
      (.ok (first :: children, warnings), s)

/-- Builds the dataset of an entry.  If its children cannot be put side by side they are closed, each of
them without a failure. -/
def build (opener : Opener) (e : DatasetEntry) : Action Dataset := fun s =>
  match openChildren opener e s with
  | (.error f, s) => (.error f, s)
  | (.ok (children, warnings), s) =>
    match Action.ofNoted (Dataset.build (.text e.id) children e.title) s with
    | (.error f, s) => (.error f, s.closeChildren children)
    | (.ok d, s) => (.ok { d with warnings := d.warnings ++ warnings }, s)

end DatasetEntry

namespace Registry

/-- A registry without datasets. -/
def empty : Registry := ⟨[], [], 0⟩

/-- Sets the value of an id; an id that is there keeps its place. -/
def put {α : Type} (id : String) (value : α) : List (String × α) → List (String × α)
  | [] => [(id, value)]
  | (i, v) :: rest => if i = id then (i, value) :: rest else (i, v) :: put id value rest

/-- The published ids, sorted. -/
def ids (r : Registry) : List String :=
  (r.datasets.map (·.1)).mergeSort fun a b => decide (a ≤ b)

/-- What a table has for a value; only text is an id, and what holds other values is refused. -/
def lookUp {α : Type} (id : Value) (table : List (String × α)) : Except Failure (Option α) :=
  match id.unhashable?, id with
  | some kind, _ => .error (.unhashable kind)
  | none, .text s => .ok (table.lookup s)
  | none, _ => .ok none

/-- Whether an id is published. -/
def contains (r : Registry) (id : Value) : Except Failure Bool :=
  (lookUp id r.datasets).map Option.isSome

/-- The number of published datasets. -/
def size (r : Registry) : Nat := r.datasets.length

/-- The dataset of an id. -/
def get (r : Registry) (id : Value) : Except Failure Published := do
  match ← lookUp id r.datasets with
  | some p => return p
  | none => throw (.noDataset id)

/-- The registry with a dataset published in the place of one with the same id. -/
def publish (e : DatasetEntry) (d : Dataset) (r : Registry) : Registry :=
  ⟨put e.id ⟨r.editions, d⟩ r.datasets, put e.id e r.entries, r.editions + 1⟩

/-- The registry without an id. -/
def erase (id : String) (r : Registry) : Registry :=
  { r with
    datasets := r.datasets.filter fun (i, _) => i != id
    entries := r.entries.filter fun (i, _) => i != id }

end Registry

namespace Service

/-- The service with one more note. -/
def noted (level : Level) (text : String) (s : Service) : Service :=
  { s with session := { s.session with notes := s.session.notes ++ [⟨level, .registry, text⟩] } }

/-- Builds the dataset of an entry and publishes it. -/
def load (opener : Opener) (e : DatasetEntry) (s : Service) : Except Failure Dataset × Service :=
  match e.build opener s.session with
  | (.error f, session) => (.error f, { s with session := session })
  | (.ok d, session) =>
    let verb := if (s.registry.datasets.lookup e.id).isSome then "Replaced" else "Loaded"
    let next : Service := ⟨s.registry.publish e d, session⟩
    (.ok d, next.noted .info (verb ++ " dataset " ++ e.id))

/-- Loads several datasets and gives the failures by id.  Every failure of a dataset is caught, but no
interruption of the program. -/
def loadAll (opener : Opener) : List DatasetEntry → List (String × Failure) → Service →
    List (String × Failure) × Service
  | [], failures, s => (failures, s)
  | e :: es, failures, s =>
    match load opener e s with
    | (.ok _, s) => loadAll opener es failures s
    | (.error f, s) =>
      loadAll opener es (Registry.put e.id f failures)
        (s.noted .error ("Failed to load dataset " ++ e.id))

/-- Builds the dataset of an id again from the entry that it was loaded with. -/
def reload (opener : Opener) (id : Value) (s : Service) : Except Failure Dataset × Service :=
  match Registry.lookUp id s.registry.entries with
  | .error f => (.error f, s)
  | .ok none => (.error (.noDataset id), s)
  | .ok (some e) => load opener e s

/-- Takes a dataset from the registry and closes its children.  From an empty registry nothing is
taken, whatever the id is. -/
def remove (id : Value) (s : Service) : Except Failure Dataset × Service :=
  if s.registry.datasets.isEmpty then (.error (.notPublished id), s)
  else match Registry.lookUp id s.registry.datasets with
    | .error f => (.error f, s)
    | .ok none => (.error (.notPublished id), s)
    | .ok (some p) =>
      let next : Service :=
        ⟨s.registry.erase id.formatted, s.session.closeChildren p.dataset.children⟩
      (.ok p.dataset, next.noted .info ("Removed dataset " ++ id.formatted))

end Service

end GridUnion
