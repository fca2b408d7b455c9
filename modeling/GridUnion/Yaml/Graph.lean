import GridUnion.Yaml.Token
import GridUnion.Yaml.Tag

/-!
# Graphs of nodes

A document is a graph: its nodes have numbers, and a list or mapping gives its parts by their
numbers.  A node that is referred to by its anchor has one number, so a list may contain itself.
`Graph.ofTokens` reads the graph of the only document of a text.
-/

namespace GridUnion.Yaml

/-- A node of a document. -/
inductive Node where
  | scalar (tag : Tag) (text : String)
  | list (tag : Tag) (items : List Nat)
  | mapping (tag : Tag) (entries : List (Nat × Nat))
  deriving Repr, Inhabited

/-- The tag of a node. -/
def Node.tag : Node → Tag
  | .scalar t _ => t
  | .list t _ => t
  | .mapping t _ => t

/-- The node with another tag. -/
def Node.withTag (tag : Tag) : Node → Node
  | .scalar _ text => .scalar tag text
  | .list _ items => .list tag items
  | .mapping _ entries => .mapping tag entries

/-- A document: its nodes by number, and the number of the outermost one. -/
structure Graph where
  nodes : Array Node
  root : Nat
  deriving Repr, Inhabited

/-- What has been read of a document. -/
structure Draft where
  /-- The tokens that are left. -/
  tokens : List Token
  /-- What is wrong where the tokens end. -/
  fault : Fault
  nodes : Array Node
  /-- The numbers of the nodes with an anchor. -/
  anchors : List (String × Nat)
  /-- What the handles of tags stand for. -/
  handles : List (String × String)
  /-- How many lists and mappings are around the next node. -/
  depth : Nat
  deriving Inhabited

/-- A step in reading a document. -/
abbrev Drafting := StateT Draft (Except Fault)

namespace Drafting

/-- The next token. -/
def peek : Drafting Token := do
  let d ← get
  match d.tokens with
  | t :: _ => return t
  | [] => throw d.fault

/-- Goes on after the next token. -/
def skip : Drafting Unit := modify fun d => { d with tokens := d.tokens.drop 1 }

/-- Goes on after the next token if it is `t`. -/
def accept (t : Token) : Drafting Bool := do
  if (← peek) = t then
    skip
    return true
  else return false

/-- Goes on after the next token, which has to be `t`. -/
def expect (t : Token) : Drafting Unit := do
  if !(← accept t) then throw .malformed

/-- Adds a node and gives its number. -/
def add (n : Node) : Drafting Nat := do
  let d ← get
  set { d with nodes := d.nodes.push n }
  return d.nodes.size

/-- Replaces the node with a number. -/
def put (number : Nat) (n : Node) : Drafting Unit :=
  modify fun d => { d with nodes := d.nodes.setIfInBounds number n }

/-- A scalar that is left out. -/
def emptyScalar : Drafting Nat := add (.scalar (Tag.ofPlain "") "")

/-! ### Tags and anchors -/

/-- The full name of a tag. -/
def fullName (t : WrittenTag) : Drafting String := do
  match t.handle with
  | none => return t.suffix
  | some h =>
    match (← get).handles.lookup h with
    | some meaning => return meaning ++ t.suffix
    | none => throw .malformed

/-- The anchor and the tag in front of a node, in any order. -/
def properties : Drafting (Option String × Option String) := do
  match ← peek with
  | .anchor name =>
    skip
    match ← peek with
    | .tag t =>
      skip
      return (some name, some (← fullName t))
    | _ => return (some name, none)
  | .tag t =>
    skip
    match ← peek with
    | .anchor name =>
      skip
      return (some name, some (← fullName t))
    | _ => return (none, some (← fullName t))
  | _ => return (none, none)

/-- Gives a node its anchor, which must be new. -/
def nameNode (anchor : Option String) (number : Nat) : Drafting Nat := do
  match anchor with
  | none => return number
  | some name =>
    if ((← get).anchors.lookup name).isSome then throw .malformed
    modify fun d => { d with anchors := (name, number) :: d.anchors }
    return number

/-- The number of the node with an anchor. -/
def referent (name : String) : Drafting Nat := do
  match (← get).anchors.lookup name with
  | some number => return number
  | none => throw .malformed

/-- The tag of a scalar. -/
def scalarTag (tag : Option String) (text : String) (isPlain : Bool) : Tag :=
  match tag with
  | none => if isPlain then Tag.ofPlain text else .text
  | some name => if name == plainTag.suffix then Tag.ofPlain text else Tag.ofName name

/-- The tag of a list or mapping that has the tag `usual` if none is given. -/
def containerTag (tag : Option String) (usual : Tag) : Tag :=
  match tag with
  | none => usual
  | some name => if name == plainTag.suffix then usual else Tag.ofName name

/-! ### Nodes -/

/-- Where a node stands. -/
inductive Place where
  /-- Between brackets. -/
  | flow
  | block
  /-- A key or value of a block, where a list needs no deeper indentation. -/
  | entry
  deriving DecidableEq

/-- A node that consists of an anchor or a tag alone. -/
def bareNode (anchor tag : Option String) : Drafting Nat := do
  if anchor.isNone && tag.isNone then throw .malformed
  nameNode anchor (← add (.scalar (scalarTag tag "" true) ""))

/-- How many lists and mappings there may be around each other. -/
def depthLimit : Nat := 490

/-- Reads the parts of a list or mapping. -/
def within {α : Type} (parts : Drafting α) : Drafting α := do
  if depthLimit ≤ (← get).depth then
    throw (.badScalar (.other "RecursionError") "maximum recursion depth exceeded")
  modify fun d => { d with depth := d.depth + 1 }
  let result ← parts
  modify fun d => { d with depth := d.depth - 1 }
  return result

/-- A list, whose number is known while its items are read. -/
def listNode (anchor tag : Option String) (items : Drafting (List Nat)) : Drafting Nat := do
  let number ← nameNode anchor (← add default)
  put number (.list (containerTag tag .list) (← within items))
  return number

/-- A mapping, whose number is known while its entries are read. -/
def mappingNode (anchor tag : Option String) (entries : Drafting (List (Nat × Nat))) :
    Drafting Nat := do
  let number ← nameNode anchor (← add default)
  put number (.mapping (containerTag tag .mapping) (← within entries))
  return number

mutual

/-- Reads a node. -/
def node : (fuel : Nat) → Place → Drafting Nat
  | 0, _ => throw .malformed
  | fuel + 1, place => do
    match ← peek with
    | .reference name =>
      skip
      referent name
    | _ =>
      let (anchor, tag) ← properties
      let next ← peek
      if next = .item ∧ place = .entry then
        listNode anchor tag (looseItems fuel)
      else match next with
        | .scalar text isPlain =>
          skip
          nameNode anchor (← add (.scalar (scalarTag tag text isPlain) text))
        | .listStart =>
          skip
          listNode anchor tag (flowItems fuel true)
        | .mappingStart =>
          skip
          mappingNode anchor tag (flowEntries fuel true)
        | .blockListStart =>
          if place = .flow then bareNode anchor tag
          else
            skip
            listNode anchor tag (blockItems fuel)
        | .blockMappingStart =>
          if place = .flow then bareNode anchor tag
          else
            skip
            mappingNode anchor tag (blockEntries fuel)
        | _ => bareNode anchor tag
/-- Reads a node, or an empty scalar if one of some tokens is next. -/
def nodeUnless (ends : List Token) : (fuel : Nat) → Place → Drafting Nat
  | 0, _ => throw .malformed
  | fuel + 1, place => do
    if ends.contains (← peek) then emptyScalar else node fuel place

/-- The items of a list in a block of its own. -/
def blockItems : (fuel : Nat) → Drafting (List Nat)
  | 0 => throw .malformed
  | fuel + 1 => do
    if ← accept .item then
      let first ← nodeUnless [.item, .blockEnd] fuel .block
      return first :: (← blockItems fuel)
    else
      expect .blockEnd
      return []

/-- The items of a list without a block of its own. -/
def looseItems : (fuel : Nat) → Drafting (List Nat)
  | 0 => throw .malformed
  | fuel + 1 => do
    if ← accept .item then
      let first ← nodeUnless [.item, .key, .value, .blockEnd] fuel .block
      return first :: (← looseItems fuel)
    else return []

/-- The entries of a mapping in a block. -/
def blockEntries : (fuel : Nat) → Drafting (List (Nat × Nat))
  | 0 => throw .malformed
  | fuel + 1 => do
    if ← accept .key then
      let key ← nodeUnless [.key, .value, .blockEnd] fuel .entry
      let value ←
        if ← accept .value then nodeUnless [.key, .value, .blockEnd] fuel .entry
        else emptyScalar
      return (key, value) :: (← blockEntries fuel)
    else
      expect .blockEnd
      return []

/-- The items of a list between brackets; an item may be a mapping with a single entry. -/
def flowItems : (fuel : Nat) → (isFirst : Bool) → Drafting (List Nat)
  | 0, _ => throw .malformed
  | fuel + 1, isFirst => do
    if ← accept .listEnd then return []
    if !isFirst then
      expect .comma
      if ← accept .listEnd then return []
    if ← accept .key then
      let number ← mappingNode none none (flowPair fuel)
      return number :: (← flowItems fuel false)
    else
      let first ← node fuel .flow
      return first :: (← flowItems fuel false)

/-- The single entry of a mapping without braces. -/
def flowPair : (fuel : Nat) → Drafting (List (Nat × Nat))
  | 0 => throw .malformed
  | fuel + 1 => do
    let key ← nodeUnless [.value, .comma, .listEnd] fuel .flow
    let value ←
      if ← accept .value then nodeUnless [.comma, .listEnd] fuel .flow
      else emptyScalar
    return [(key, value)]

/-- The entries of a mapping between braces; an entry may be a key alone. -/
def flowEntries : (fuel : Nat) → (isFirst : Bool) → Drafting (List (Nat × Nat))
  | 0, _ => throw .malformed
  | fuel + 1, isFirst => do
    if ← accept .mappingEnd then return []
    if !isFirst then
      expect .comma
      if ← accept .mappingEnd then return []
    if ← accept .key then
      let key ← nodeUnless [.value, .comma, .mappingEnd] fuel .flow
      let value ←
        if ← accept .value then nodeUnless [.comma, .mappingEnd] fuel .flow
        else emptyScalar
      return (key, value) :: (← flowEntries fuel false)
    else
      let key ← node fuel .flow
      let value ← emptyScalar
      return (key, value) :: (← flowEntries fuel false)

end

/-! ### Documents -/

/-- The handles that need no directive. -/
def usualHandles : List (String × String) := [("!", "!"), ("!!", Tag.root)]

/-- Reads directives; each handle is defined once, and there is one version, which is 1. -/
def directives : (fuel : Nat) → (hasVersion : Bool) → Drafting Unit
  | 0, _ => throw .malformed
  | fuel + 1, hasVersion => do
    match ← peek with
    | .directive d =>
      skip
      match d with
      | .version major =>
        if hasVersion || major != 1 then throw .malformed
        directives fuel true
      | .handle name meaning =>
        if ((← get).handles.lookup name).isSome then throw .malformed
        modify fun d => { d with handles := (name, meaning) :: d.handles }
        directives fuel hasVersion
      | .reserved => directives fuel hasVersion
    | _ => modify fun d => { d with handles := d.handles ++ usualHandles }

/-- The number of the outermost node, if there is a document. -/
def document (fuel : Nat) : Drafting (Option Nat) := do
  match ← peek with
  | .textEnd => return none
  | .directive _ | .documentStart =>
    directives fuel false
    expect .documentStart
    match ← peek with
    | .directive _ | .documentStart | .documentEnd | .textEnd => some <$> emptyScalar
    | _ => some <$> node fuel .block
  | _ =>
    modify fun d => { d with handles := usualHandles }
    some <$> node fuel .block

/-- Goes on after marks of the end of a document. -/
def skipEnds : (fuel : Nat) → Drafting Unit
  | 0 => throw .malformed
  | fuel + 1 => do
    if ← accept .documentEnd then skipEnds fuel

/-- Reads a document after which nothing else may come.  Directives of another one are read before
it is refused. -/
def onlyDocument (fuel : Nat) : Drafting (Option Nat) := do
  let root ← document fuel
  skipEnds fuel
  if ← accept .textEnd then return root
  modify fun d => { d with handles := [] }
  directives fuel false
  discard peek
  throw .malformed

end Drafting

/-- The graph of the only document of a text; none if the text is empty. -/
def Graph.ofTokens (tokens : List Token) (fault : Option Fault) :
    Except Fault (Option Graph) := do
  let fuel := 4 * tokens.length + 8
  let draft : Draft := ⟨tokens, fault.getD .malformed, #[], [], [], 0⟩
  let (root, draft) ← (Drafting.onlyDocument fuel).run draft
  return root.map fun n => ⟨draft.nodes, n⟩

end GridUnion.Yaml
