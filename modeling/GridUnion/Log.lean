import GridUnion.Session
import GridUnion.Text.Utf8

/-!
# The log

Notes go to the console, and to a file if there is one.  The file gets all of them, the console only
those that matter enough.
-/

namespace GridUnion

/-- A line of the log. -/
structure LogLine where
  level : Level
  /-- The part of a program that the line is about. -/
  source : String
  text : String
  deriving DecidableEq, Repr

namespace LogLine

/-- The line of a note. -/
def ofNote (n : Note) : LogLine := ⟨n.level, n.topic.name, n.text⟩

/-- A line as it is written at a time. -/
def rendered (time : String) (l : LogLine) : String :=
  " - ".intercalate [time, l.source, l.level.name, l.text]

/-- Whether a line is about the program itself. -/
def concernsProgram (l : LogLine) : Bool :=
  l.source == Topic.tool.name || l.source.startsWith (Topic.tool.name ++ ".")

end LogLine

/-- A place where lines go. -/
structure Sink where
  /-- The path of a file; none is the console. -/
  file : Option String
  /-- Lines of lower levels are left out. -/
  least : Level
  deriving DecidableEq, Repr

/-- The places where lines go, and the lines that have gone there. -/
structure Log where
  sinks : List Sink
  console : List LogLine
  files : List (String × List LogLine)
  deriving Repr

/-- The least level that is shown on the console. -/
def consoleLevel (verbose : Bool) : Level := if verbose then .debug else .info

namespace Log

/-- A log without sinks. -/
def empty : Log := ⟨[], [], []⟩

/-- The level from which on lines reach the sinks. -/
def weight (log : Log) : Nat := if log.sinks.isEmpty then 0 else Level.debug.weight

/-- Adds a line to a file. -/
def addTo (path : String) (l : LogLine) :
    List (String × List LogLine) → List (String × List LogLine)
  | [] => [(path, [l])]
  | (p, ls) :: rest => if p = path then (p, ls ++ [l]) :: rest else (p, ls) :: addTo path l rest

/-- Sends a line to a sink. -/
def send (l : LogLine) (log : Log) (s : Sink) : Log :=
  if l.level.weight < s.least.weight then log
  else match s.file with
    | none => { log with console := log.console ++ [l] }
    | some path => { log with files := addTo path l log.files }

/-- Sends a line to all sinks. -/
def write (l : LogLine) (log : Log) : Log :=
  if l.concernsProgram then log.sinks.foldl (send l) log else log

/-- The path of a log file; an empty one is none. -/
def path? (logFile : Option String) : Option String := logFile.filter (· != "")

/-- The line with which a log file begins. -/
def opening (path : String) : LogLine := ⟨.info, Topic.tool.name, "Logging to file: " ++ path⟩

/-- Sets new sinks in the place of the old ones. -/
def setUp (logFile : Option String) (verbose : Bool) (log : Log) : Log :=
  let console : Sink := ⟨none, consoleLevel verbose⟩
  match path? logFile with
  | none => { log with sinks := [console] }
  | some path =>
    let file := "/".intercalate (Files.plainParts (Path.ofString path).parts)
    Log.write (opening path) { log with sinks := [console, ⟨some file, .debug⟩] }

/-- The text of a log file as it is read again: in a file, every line end is a line feed.  Lines
with surrogates are left out, since these have no bytes. -/
def fileText (time : String) (ls : List LogLine) : String :=
  let texts := (ls.map (LogLine.rendered time)).filter fun t => !t.toList.any Text.isStandIn
  let written := String.join (texts.map (· ++ "\n"))
  String.ofList (Text.unifyNewlines written.toList)

end Log

/-- Creates the log file and says so. -/
def prepareLog (logFile : Option String) : Action Unit :=
  match Log.path? logFile with
  | none => pure ()
  | some path => do
    Action.changeFiles fun fs => fs.openForNotes (Path.ofString path)
    Action.note .info .tool (Log.opening path).text

end GridUnion
