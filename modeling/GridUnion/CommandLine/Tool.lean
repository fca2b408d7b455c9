import GridUnion.CommandLine.Command
import GridUnion.Catalogue.File
import GridUnion.Registry
import GridUnion.Log

/-!
# The tool

Carries out commands.  A failure that is the user's to mend is noted, and the tool ends with code 1;
any other failure is passed on.
-/

namespace GridUnion

namespace CommandLine

variable [Machine]

/-- The entries to load: all of them, or those with an id, of which there has to be one. -/
def selected (catalogue : String) (only : Option Argument) (es : List DatasetEntry) :
    Except Failure (List DatasetEntry) :=
  match only with
  | none => .ok es
  | some id =>
    match es.filter fun e => id == .word e.id with
    | [] => .error (.notConfigured id.text catalogue)
    | found => .ok found

/-- Loads datasets into an empty registry, and gives the failures by id. -/
def loadEntries (es : List DatasetEntry) : Action (Registry × List (String × Failure)) := fun s =>
  let (failures, service) := Service.loadAll .fromFiles es [] ⟨.empty, s⟩
  (.ok (service.registry, failures), service.session)

/-- Loads a catalogue, or one dataset of it. -/
def loadCatalogue (catalogue : String) (only : Option Argument) :
    Action (Registry × List (String × Failure)) := do
  let es ← Catalogue.load catalogue
  loadEntries (← (selected catalogue only es : Except Failure (List DatasetEntry)))

/-- Prints descriptions of the published datasets. -/
def describeAll (r : Registry) : Action Unit :=
  r.ids.forM fun id => do
    let p ← (r.get (.text id) : Except Failure Published)
    Action.print (← (p.dataset.describe : Except Failure String))

/-- The requests for all dimensions of a dataset.  One that is left blank is refused after those
before it, of which each has to be within its dimension. -/
def completeRequests (d : Dataset) (constraints : List (Option Request)) :
    Except Failure (List Request) := do
  let full ← d.fullConstraints (constraints.map fun r => r.getD default)
  if constraints.all Option.isSome then return full
  let before := full.take (constraints.takeWhile Option.isSome).length
  Dataset.checkRequests (d.axes.zip (d.shape.zip before))
  throw .blankConstraint

/-- Writes a part of a dataset to a file. -/
def writePart (d : Dataset) (names : List String) (constraints : List (Option Request))
    (output : String) : Action Unit := do
  let full ← (completeRequests d constraints : Except Failure (List Request))
  let grid ← Action.ofNoted (d.subset names full)
  Action.write output grid
  Action.note .info .tool ("Wrote " ++ output)

/-- The path that an argument is taken for. -/
def pathOf : Argument → Value
  | .word s => .text s
  | .blank => .list []

/-- Carries out a command on the one dataset it names, unless the dataset cannot be loaded. -/
def onDataset (catalogue : String) (id : Argument) (f : Dataset → Action Unit) : Action Nat := do
  let (registry, failures) ← loadCatalogue catalogue (some id)
  if !failures.isEmpty then return 1
  let p ← (registry.get (.text id.text) : Except Failure Published)
  f p.dataset
  return 0

/-- Carries out a command and gives the exit code. -/
def Command.perform : Command → Action Nat
  | .info catalogue only => do
    let (registry, failures) ← loadCatalogue catalogue only
    describeAll registry
    return if failures.isEmpty then 0 else 1
  | .extract catalogue id names constraints output =>
    onDataset catalogue id fun d => writePart d names constraints output.text
  | .plot catalogue id output =>
    onDataset catalogue id fun d => do
      Action.draw (← (d.drawCoverage (output.map pathOf) : Except Failure Drawing))

/-- Prepares the log, carries out a command and gives the exit code. -/
def Invocation.run (i : Invocation) : Action Nat := do
  prepareLog i.logFile
  match ← Action.attempt i.command.perform with
  | .ok code => return code
  | .error f =>
    if f.kind.isUserLevel then
      Action.note .error .tool f.message
      return 1
    else Action.fail f

end CommandLine

end GridUnion
