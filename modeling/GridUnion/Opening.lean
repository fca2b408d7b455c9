import GridUnion.Session

/-!
# Opening children

The path of a child is an address on the net, or the path of a file.  A relative path is looked for
in a base directory and then in the data directory.
-/

namespace GridUnion

/-- Where a grid is. -/
inductive Location where
  | url (address : String)
  | path (p : Path)
  deriving DecidableEq, Repr

namespace Location

/-- The text of a location. -/
def text : Location → String
  | url a => a
  | path p => p.text

/-- Whether a text is an address on the net. -/
def isAddress (s : String) : Bool := s.startsWith "http://" || s.startsWith "https://"

/-- The directories where relative paths are looked for. -/
def searched (dataDirectory base : Option String) : List String :=
  base.toList ++ dataDirectory.toList.filter (· != "")

/-- The paths where a relative path may lead, the first one first. -/
def candidates (dataDirectory base : Option String) (p : Path) : List Path :=
  (searched dataDirectory base).map fun d => (Path.ofString d).join p

/-- The first of several paths that leads to a file. -/
def firstExisting? (fs : Files) : List Path → Except Failure (Option Path)
  | [] => .ok none
  | p :: ps => do
    if ← fs.has p then return some p
    else firstExisting? fs ps

/-- Where a path leads: the first searched directory that has it, else the path as it is. -/
def resolve (fs : Files) (s : String) (base : Option String) : Except Failure Location :=
  if isAddress s then .ok (.url s)
  else
    let p := Path.ofString s
    if p.isAbsolute then .ok (.path p)
    else do return .path ((← firstExisting? fs (candidates fs.dataDirectory base p)).getD p)

/-- Whether there is no file at a location. -/
def isMissing (fs : Files) : Location → Except Failure Bool
  | url _ => .ok false
  | path p => (fs.has p).map not

end Location

/-- Opens the grid at a location. -/
def openGrid (location : String) : Action (Grid × Handle) := fun s =>
  match s.files.grid? location with
  | none => (.error (.raised .system ("cannot open " ++ location)), s)
  | some (.broken f) => (.error f, s)
  | some (.grid g) =>
    (.ok (g, ⟨s.opened, location⟩), { s with opened := s.opened + 1 })

namespace Child

/-- Opens a child from a file or an address. -/
def openFrom (path : String) (name axis : Value) (base : Option String) : Action Child := do
  let files ← Action.ask fun s => s.files
  let location ← (Location.resolve files path base : Except Failure Location)
  if ← (location.isMissing files : Except Failure Bool) then
    Action.fail (.childFileMissing location.text)
  else
    Action.note .debug .children ("Opening child dataset " ++ location.text)
    let (grid, handle) ← openGrid location.text
    ofGrid grid name axis (.text location.text) (some handle)

end Child

end GridUnion
