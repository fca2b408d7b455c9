import GridUnion.Number
import GridUnion.Yaml.Graph
import GridUnion.Yaml.Scalar

/-!
# Documents

The value of a document.  It is made level by level: the outermost node first, then its parts, then
theirs.  So of two faults the one further out is found first, and on one level the one that comes
first in the text.  A mapping takes in what is merged into it when its parts are made.
-/

namespace GridUnion.Yaml

/-- What a node has been made into; lists and mappings give their parts by number. -/
inductive Made where
  | leaf (v : Value)
  | list (items : List Nat)
  | mapping (entries : List (Nat × Nat))
  | set (entries : List (Nat × Nat))
  | pairs (entries : List (Nat × Nat))
  deriving Inhabited

/-- A document that is being made. -/
structure Assembly where
  /-- The nodes, which merging changes. -/
  nodes : Array Node
  /-- What nodes have been made into; a list or mapping is empty until its parts are made. -/
  made : List (Nat × Made)
  /-- The lists and mappings whose parts are still to be made, in order. -/
  waiting : List Nat

namespace Assembly

/-- The node with a number. -/
def node (a : Assembly) (n : Nat) : Node := a.nodes.getD n default

/-- The number of steps after which a walk along different nodes has ended. -/
def fuel (a : Assembly) : Nat := a.nodes.size + 2

/-! ### Scalars -/

/-- The text of a scalar; a mapping stands for the value of its default key. -/
def scalarText (a : Assembly) : (fuel : Nat) → Nat → Except Fault String
  | 0, _ => .error (.badScalar (.other "RecursionError") "maximum recursion depth exceeded")
  | fuel + 1, n =>
    match a.node n with
    | .scalar _ s => .ok s
    | .list _ _ => .error .malformed
    | .mapping _ entries =>
      match entries.find? fun (k, _) => (a.node k).tag == .default with
      | some (_, v) => scalarText a fuel v
      | none => .error .malformed

/-- The value of a scalar as an object: what is not a number is one of its own, known by its node,
unless it is written in the usual way. -/
def asObject (n : Nat) (isUsual : Bool) : Value → Value
  | .real .nan => if isUsual then .real .nan else .nan n
  | v => v

/-- The value of a node that holds no others. -/
def leaf (a : Assembly) (n : Nat) : Except Fault Value := do
  match (a.node n).tag, a.node n with
  | .default, _ | .merge, _ | .unknown, _ => throw .malformed
  | .time, .mapping _ _ =>
    discard (a.scalarText a.fuel n)
    throw (.badScalar .type "expected string or bytes-like object, got 'list'")
  | tag, _ =>
    let text ← a.scalarText a.fuel n
    return asObject n (Scalar.isUsualNan text.toList) (← Scalar.value tag text)

/-! ### Merging -/

/-- The entries of a mapping. -/
def entries (a : Assembly) (n : Nat) : List (Nat × Nat) :=
  match a.node n with
  | .mapping _ entries => entries
  | _ => []

/-- Sets the entries of a mapping. -/
def setEntries (n : Nat) (entries : List (Nat × Nat)) (a : Assembly) : Assembly :=
  match a.node n with
  | .mapping tag _ => { a with nodes := a.nodes.setIfInBounds n (.mapping tag entries) }
  | _ => a

/-- Makes a default key a text. -/
def settleKey (a : Assembly) (k : Nat) : Assembly :=
  if (a.node k).tag == .default then
    { a with nodes := a.nodes.setIfInBounds k ((a.node k).withTag .text) }
  else a

/-- Whether an entry is to be merged into its mapping. -/
def isMerge (a : Assembly) (e : Nat × Nat) : Bool := (a.node e.1).tag == .merge

/-- Takes the entries to be merged out of a mapping one by one, and puts what they stand for in
front of the others; `added` is what they have been found to stand for so far.  A mapping may be
merged into itself: then it has fewer of these entries, so in the end it has none. -/
def merge : (fuel : Nat) → (n : Nat) → (added : List (Nat × Nat)) → Assembly →
    Except Fault Assembly
  | 0, _, _, _ => .error .malformed
  | fuel + 1, n, added, a =>
    let entries := a.entries n
    match entries.findIdx? a.isMerge with
    | none =>
      let a := (entries.map (·.1)).foldl settleKey a
      .ok (a.setEntries n (added ++ entries))
    | some i => do
      let source := (entries.getD i default).2
      let a := a.setEntries n (entries.eraseIdx i)
      match a.node source with
      | .mapping _ _ =>
        let a ← merge fuel source [] a
        merge fuel n (added ++ a.entries source) a
      | .list _ items =>
        let (a, lists) ← items.foldlM (fun (a, lists) m => do
          match a.node m with
          | .mapping _ _ =>
            let a ← merge fuel m [] a
            return (a, a.entries m :: lists)
          | _ => throw Fault.malformed) (a, [])
        merge fuel n (added ++ lists.flatten) a
      | .scalar _ _ => throw .malformed

/-- The number of all entries to be merged. -/
def mergeCount (a : Assembly) : Nat :=
  ((List.range a.nodes.size).map fun n => (a.entries n).countP a.isMerge).sum

/-! ### Making nodes -/

/-- What a node has been made into, if it has been made. -/
def made? (a : Assembly) (n : Nat) : Option Made := a.made.lookup n

/-- Notes what a node has been made into. -/
def note (n : Nat) (m : Made) (a : Assembly) : Assembly := { a with made := (n, m) :: a.made }

/-- Makes a node, unless it has been made; the parts of a list or mapping are made later. -/
def begin (a : Assembly) (n : Nat) : Except Fault Assembly := do
  if (a.made? n).isSome then return a
  if (a.node n).tag.isContainer then
    return { a.note n (.list []) with waiting := a.waiting ++ [n] }
  else return a.note n (.leaf (← a.leaf n))

/-- Makes a key and its value; a key is no list or mapping. -/
def beginEntry (a : Assembly) (e : Nat × Nat) : Except Fault Assembly := do
  let a ← a.begin e.1
  if (a.node e.1).tag.isContainer then throw .malformed
  a.begin e.2

/-- The entries of a mapping after merging, and the assembly with its keys and values made. -/
def beginMapping (a : Assembly) (n : Nat) : Except Fault (Assembly × List (Nat × Nat)) := do
  let a ← merge (a.mergeCount + 1) n [] a
  let entries := a.entries n
  return (← entries.foldlM beginEntry a, entries)

/-- Makes the single entry of an item of an ordered mapping. -/
def beginPair (x : Assembly × List (Nat × Nat)) (item : Nat) :
    Except Fault (Assembly × List (Nat × Nat)) := do
  let (a, pairs) := x
  match a.node item with
  | .mapping _ [(k, v)] => return (← (← a.begin k).begin v, pairs ++ [(k, v)])
  | _ => throw .malformed

/-- Makes the parts of a list or mapping. -/
def fill (a : Assembly) (n : Nat) : Except Fault Assembly := do
  match (a.node n).tag, a.node n with
  | .list, .list _ items => return (← items.foldlM begin a).note n (.list items)
  | .mapping, .mapping _ _ =>
    let (a, entries) ← a.beginMapping n
    return a.note n (.mapping entries)
  | .set, .mapping _ _ =>
    let (a, entries) ← a.beginMapping n
    return a.note n (.set entries)
  | .orderedMapping, .list _ items | .pairs, .list _ items =>
    let (a, entries) ← items.foldlM beginPair (a, [])
    return a.note n (.pairs entries)
  | _, _ => throw .malformed

/-- Makes the parts of all lists and mappings. -/
def fillAll : (fuel : Nat) → Assembly → Except Fault Assembly
  | 0, a => .ok a
  | fuel + 1, a =>
    match a.waiting with
    | [] => .ok a
    | n :: rest => do fillAll fuel (← fill { a with waiting := rest } n)

/-! ### The value -/

/-- Whether two keys are the same. -/
def isSameKey (a : Assembly) (k l : Nat) : Bool :=
  match a.made? k, a.made? l with
  | some (.leaf x), some (.leaf y) => x.isSame y
  | _, _ => false

/-- Adds an entry; a key that is there keeps its place. -/
def addEntry (a : Assembly) : List (Nat × Nat) → Nat × Nat → List (Nat × Nat)
  | [], e => [e]
  | (k, v) :: es, e => if a.isSameKey k e.1 then (k, e.2) :: es else (k, v) :: addEntry a es e

/-- The entries of a mapping with different keys. -/
def distinct (a : Assembly) (entries : List (Nat × Nat)) : List (Nat × Nat) :=
  entries.foldl a.addEntry []

/-- The value of a node; `path` are the nodes around it, the innermost first. -/
def value (a : Assembly) : (fuel : Nat) → (path : List Nat) → Nat → Value
  | 0, _, _ => .null
  | fuel + 1, path, n =>
    let part := a.value fuel (n :: path)
    let depth := path.idxOf n
    let isOpen := path.contains n
    match (a.made? n).getD default with
    | .leaf v => v
    | .mapping entries =>
      if isOpen then .enclosing depth true
      else .dict ((a.distinct entries).map fun (k, v) => (part k, part v))
    | .list items => if isOpen then .enclosing depth false else .list (items.map part)
    | .set entries =>
      if isOpen then .enclosing depth false
      else .set ((a.distinct entries).map fun (k, _) => part k)
    | .pairs entries =>
      if isOpen then .enclosing depth false
      else
        let inPair := a.value fuel (a.nodes.size :: n :: path)
        .list (entries.map fun (k, v) => .tuple [inPair k, inPair v])

end Assembly

/-- The value of a document. -/
def Graph.value (g : Graph) : Except Fault Value := do
  let a ← (Assembly.mk g.nodes [] []).begin g.root
  let a ← a.fillAll (g.nodes.size + 1)
  return a.value a.fuel [] g.root

/-- The value of the only document of a source; an empty one is nothing. -/
def read (s : Source) : Except Fault Value := do
  let (ts, fault) := tokens s
  match ← Graph.ofTokens ts fault with
  | none => return .null
  | some g => g.value

end GridUnion.Yaml
