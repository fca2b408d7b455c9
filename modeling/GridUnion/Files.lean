import GridUnion.Path
import GridUnion.Grid

/-!
# Files

The files that can be seen: grids, which are found under their location, and files and directories
on disk, which are found by walking along a path from the working directory.  A grid stays under
its location when its file is gone from disk.  Files elsewhere are known by the text of their path
alone.
-/

namespace GridUnion

/-- What is found under the location of a grid. -/
inductive GridSource where
  | grid (g : Grid)
  | broken (failure : Failure)
  deriving Inhabited

/-- Grids by location, the bytes of the files on disk, and further directories. -/
structure Files where
  grids : List (String × GridSource)
  /-- The files on disk by their parts. -/
  onDisk : List (List String × List UInt8)
  directories : List (List String)
  /-- The files elsewhere by the texts of their paths. -/
  elsewhere : List (String × List UInt8)
  /-- The directory where data are looked for last, if there is one. -/
  dataDirectory : Option String
  deriving Inhabited

/-- What stands at the end of a path. -/
inductive Place where
  | missing
  /-- A part of the path goes through a file. -/
  | blocked
  /-- A name on the path, or the path, is too long. -/
  | tooLong
  | directory (parts : List String)
  | file (parts : List String)
  deriving DecidableEq, Repr

namespace Files

def isFile (fs : Files) (parts : List String) : Bool :=
  fs.onDisk.any fun (p, _) => p == parts

/-- A directory is one that was made, or that lies above a file or another directory. -/
def isDirectory (fs : Files) (parts : List String) : Bool :=
  parts.isEmpty || fs.directories.any (fun d => parts.isPrefixOf d) ||
    fs.onDisk.any fun (p, _) => parts.isPrefixOf p && p != parts

/-- Walks along parts from a directory, `outside` levels above the working directory. -/
def walk (fs : Files) : (outside : Nat) → (directory parts : List String) → Place
  | outside, dir, [] => if outside = 0 then .directory dir else .directory []
  | outside, dir, p :: rest =>
    if p = ".." then
      if outside = 0 ∧ !dir.isEmpty then walk fs 0 dir.dropLast rest
      else walk fs (outside + 1) [] rest
    else if outside ≠ 0 then .missing
    else if Path.isLongPart p then .tooLong
    else
      let next := dir ++ [p]
      if fs.isFile next then (if rest.isEmpty then .file next else .blocked)
      else if fs.isDirectory next then walk fs 0 next rest
      else .missing

/-- What stands at the end of a path.  Nothing is above the root. -/
def place (fs : Files) (p : Path) : Place :=
  if p.isLong then .tooLong
  else if p.isAbsolute then
    match p.parts.dropWhile (· = "..") with
    | [] => .directory []
    | part :: _ => if Path.isLongPart part then .tooLong else .missing
  else fs.walk 0 [] p.parts

/-- Why there is nothing at the end of a path, whatever files there are. -/
def pathFault? (p : Path) : Option Failure :=
  match p.lost? with
  | some (place, characters) => some (.lostInPath place characters)
  | none => if p.hasNull then some .nullInPath else none

/-- Refuses a path at whose end there is nothing, whatever files there are. -/
def checkPath (p : Path) : Except Failure Unit :=
  match pathFault? p with
  | some fault => .error fault
  | none => .ok ()

/-- Whether there is a file or directory at the end of a path. -/
def has (fs : Files) (p : Path) : Except Failure Bool :=
  if (pathFault? p).isSome then .ok false
  else match fs.place p with
    | .directory _ => .ok true
    | .file _ => .ok true
    | .tooLong => .error (.nameTooLong p.text)
    | _ => .ok (fs.elsewhere.lookup p.text).isSome

/-- The bytes of the file at the end of a path. -/
def read (fs : Files) (p : Path) : Except Failure (List UInt8) := do
  checkPath p
  match fs.place p with
    | .missing =>
      match fs.elsewhere.lookup p.text with
      | some bytes => .ok bytes
      | none => .error (.missingFile p.text)
    | .blocked => .error (.notADirectory p.text)
    | .tooLong => .error (.nameTooLong p.text)
    | .directory _ => .error (.directoryAsFile p.text)
    | .file parts => .ok ((fs.onDisk.lookup parts).getD [])

/-- The files with a file on disk created or replaced. -/
def write (parts : List String) (bytes : List UInt8) (fs : Files) : Files :=
  { fs with onDisk := fs.onDisk.filter (fun (p, _) => p != parts) ++ [(parts, bytes)] }

/-- Whether a location is on the net. -/
def isRemote (location : String) : Bool := location.startsWith "http"

/-- The name under which a grid is kept: its location, or the shortest path to its file. -/
def gridName (location : String) : String :=
  if isRemote location then location
  else
    let p := Path.ofString location
    (Path.mk p.root (Path.reduce p.parts)).text

/-- The grid under a location. -/
def grid? (fs : Files) (location : String) : Option GridSource :=
  fs.grids.lookup (gridName location)

/-- The files on disk without the file at the end of a path. -/
def remove (p : Path) (fs : Files) : Except Failure Files := do
  checkPath p
  match fs.place p with
    | .missing =>
      if (fs.elsewhere.lookup p.text).isNone then .error (.missingFile p.text)
      else .ok { fs with elsewhere := fs.elsewhere.filter fun (t, _) => t != p.text }
    | .blocked => .error (.notADirectory p.text)
    | .tooLong => .error (.nameTooLong p.text)
    | .directory _ => .error (.directoryAsFile p.text)
    | .file parts =>
      .ok { fs with
        onDisk := fs.onDisk.filter fun (q, _) => q != parts
        directories := fs.directories ++ [parts.dropLast] }

/-- The files with a directory at the end of a relative path and all directories above it; `parts`
are those of the path in reverse. -/
def makeFrom (fs : Files) : (parts : List String) → Except Failure Files
  | [] => .ok fs
  | last :: above => do
    let p : Path := ⟨"", (last :: above).reverse⟩
    match fs.place p with
    | .directory _ => return fs
    | .file _ => throw (.alreadyThere p.text)
    | .blocked => throw (.notADirectory p.text)
    | .tooLong => throw (.nameTooLong p.text)
    | .missing =>
      let fs ← makeFrom fs above
      match fs.place ⟨"", above.reverse⟩, fs.place p with
      | _, .file _ => throw (.alreadyThere p.text)
      | .directory dir, .missing =>
        return { fs with directories := fs.directories ++ [dir ++ [last]] }
      | _, _ => return fs

/-- The files with a directory at the end of a path and all directories above it.  What lies outside
the working directory stays as it is. -/
def makeDirectory (p : Path) (fs : Files) : Except Failure Files := do
  checkPath p
  if p.isAbsolute then return fs else fs.makeFrom p.parts.reverse

/-- The files with a file at the end of a path and all directories above it. -/
def put (p : Path) (bytes : List UInt8) (fs : Files) : Files :=
  if p.isAbsolute || (Path.reduce p.parts).head? = some ".." then
    { fs with elsewhere := fs.elsewhere.filter (fun (t, _) => t != p.text) ++ [(p.text, bytes)] }
  else
    let fs := (fs.makeDirectory p.parent).toOption.getD fs
    match fs.place p.parent with
    | .directory dir => fs.write (dir ++ p.parts.drop (p.parts.length - 1)) bytes
    | _ => fs.write p.parts bytes

/-- The files with a grid under a location; one that is not on the net is on disk too. -/
def putGrid (location : String) (source : GridSource) (fs : Files) : Files :=
  let name := gridName location
  let fs := { fs with grids := fs.grids.filter (fun (l, _) => l != name) ++ [(name, source)] }
  if isRemote location then fs else fs.put (Path.ofString location) []

/-- The parts of a path without double dots, each of which takes away the part before it. -/
def plainParts (parts : List String) : List String :=
  (parts.foldl (fun done p => if p = ".." then done.drop 1 else p :: done) []).reverse

/-- The files with a file at the end of a path, ready to be written to, and the directories above
it. -/
def openForNotes (p : Path) (fs : Files) : Except Failure Files := do
  let fs ← fs.makeDirectory p.parent
  checkPath p
  if p.isAbsolute then return fs
  let parts := plainParts p.parts
  match fs.place ⟨"", parts⟩ with
  | .missing => return fs.write parts []
  | .file _ => return fs
  | .blocked => throw (.notADirectory p.text)
  | .tooLong => throw (.nameTooLong p.text)
  | .directory _ => throw (.directoryAsFile p.text)

/-- All proper beginnings of a list of parts that are not empty, and the list itself. -/
def beginnings (parts : List String) : List (List String) :=
  (List.range parts.length).map fun i => parts.take (i + 1)

/-- The texts of all paths in the working directory, sorted. -/
def listing (fs : Files) : List String :=
  let all := (fs.onDisk.map (·.1) ++ fs.directories).flatMap beginnings
  (all.map fun p => "/".intercalate p).eraseDups.mergeSort fun a b => decide (a ≤ b)

end Files

end GridUnion
