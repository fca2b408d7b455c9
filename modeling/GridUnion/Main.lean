import GridUnion.CommandLine.Tool
import Std.Time.DateTime.Timestamp

/-!
# The program

Runs the tool on the words of a command line.  The catalogue is read before, and what the tool has
noted and printed is put out after.  The contents of grids are not read from disk: a child whose
file is there counts as one that cannot be opened.
-/

namespace GridUnion.Program

open CommandLine

/-- The bytes of a file, if it can be read. -/
def bytes? (path : String) : IO (Option (List UInt8)) := do
  try
    let bytes ← IO.FS.readBinFile path
    return some bytes.toList
  catch _ => return none

/-- The path of the catalogue of a command. -/
def catalogueOf : Command → String
  | .info catalogue _ => catalogue
  | .extract catalogue _ _ _ _ => catalogue
  | .plot catalogue _ _ => catalogue

/-- The paths where the children of a catalogue may be. -/
def childPaths (dataDirectory : Option String) (es : List DatasetEntry) : List String :=
  es.flatMap fun e => e.children.flatMap fun c =>
    let p := Path.ofString c.path
    (p :: Location.candidates dataDirectory e.base p).map Path.text

/-- The files that a command may look at. -/
def filesFor (command : Command) : IO Files := do
  let dataDirectory ← IO.getEnv "SIDEBYSIDE_DATADIR"
  let catalogue := Path.ofString (catalogueOf command)
  let none := (⟨[], [], [], [], dataDirectory⟩ : Files)
  match ← bytes? catalogue.text with
  | .none => return none
  | .some bytes =>
    let es := ((Catalogue.parse catalogue bytes).bind fun v =>
      (Catalogue.entries catalogue v).result).toOption.getD []
    let mut known := [(catalogue.text, bytes)]
    for path in childPaths dataDirectory es do
      if (← bytes? path).isSome then known := known ++ [(path, [])]
    return { none with elsewhere := known }

/-- The time, to the second. -/
def now : IO String := do
  let t ← Std.Time.Timestamp.now
  let text := Count.isoText .second (some t.toSecondsSinceUnixEpoch.val)
  return text.map fun c => if c = 'T' then ' ' else c

/-- Puts out the notes on the console and in the log file, and then what was printed. -/
def putOut (i : Invocation) (s : Session) : IO Unit := do
  let time ← now
  let rendered (n : Note) : String := (LogLine.ofNote n).rendered time
  let least := consoleLevel i.verbose
  for n in s.notes do
    if least.weight ≤ n.level.weight then IO.println (rendered n)
  for text in s.printed do IO.println text
  if let some path := Log.path? i.logFile then
    IO.FS.createDirAll (Path.ofString path).parent.text
    let file ← IO.FS.Handle.mk path .append
    for n in s.notes do file.putStrLn (rendered n)

end GridUnion.Program

open GridUnion in
/-- Runs the tool and gives its exit code. -/
def main (args : List String) : IO UInt32 := do
  match CommandLine.Invocation.ofArguments args with
  | .error refusal =>
    match refusal.message? with
    | some text =>
      IO.eprintln text
      return 2
    | none => return 0
  | .ok invocation =>
    let files ← Program.filesFor invocation.command
    let start : Session := ⟨files, 0, [], [], [], [], []⟩
    let (result, session) := @CommandLine.Invocation.run Machine.terminal invocation start
    Program.putOut invocation session
    match result with
    | .ok code => return code.toUInt32
    | .error failure =>
      IO.eprintln (failure.kind.name ++ ": " ++ failure.message)
      return 1
