import GridUnion.CommandLine.Arguments
import GridUnion.CommandLine.Constraint

/-!
# Commands

What the tool can be told to do: describe the datasets of a catalogue, write a part of one to a
file, or draw the coverage of one.
-/

namespace GridUnion.CommandLine

/-- What to do. -/
inductive Command where
  /-- Describe all datasets, or only one. -/
  | info (catalogue : String) (only : Option Argument)
  /-- Write a part of a dataset to a file; a constraint may be left blank. -/
  | extract (catalogue : String) (id : Argument) (names : List String)
      (constraints : List (Option Request)) (output : Argument)
  /-- Draw the coverage of a dataset, on the screen unless a file is given. -/
  | plot (catalogue : String) (id : Argument) (output : Option Argument)
  deriving DecidableEq, Repr

/-- What to do, and how to tell about it. -/
structure Invocation where
  logFile : Option String
  verbose : Bool
  command : Command
  deriving DecidableEq, Repr

/-- Why a command line does not tell what to do, and the program that says so. -/
structure Refusal where
  program : String
  stop : Stop
  deriving DecidableEq, Repr

/-- What is said about a command line that is refused; a request for help is none. -/
def Refusal.message? (r : Refusal) : Option String :=
  match r.stop with
  | .help => none
  | .fault f => some (r.program ++ ": error: " ++ f.text)

/-! ### Parameters -/

/-- The name of the tool. -/
def program : String := "sidebyside"

/-- A parameter that takes any word. -/
def Parameter.ofOption (option : String) (arity : Arity) (isRequired : Bool) : Parameter :=
  ⟨[option], "", arity, isRequired, false, fun _ => none⟩

/-- A parameter that takes any plain word. -/
def Parameter.ofPlace (place : String) : Parameter :=
  ⟨[], place, .one, true, false, fun _ => none⟩

/-- The request for help. -/
def helpParameter : Parameter := ⟨["-h", "--help"], "", .flag, false, true, fun _ => none⟩

/-- The names of the commands. -/
def commandNames : List String := ["info", "extract", "plot"]

/-- Why a word is not the name of a command. -/
def commandObjection (s : String) : Option String :=
  if commandNames.contains s then none
  else some ("invalid choice: " ++ Text.quoted s ++ " (choose from " ++
    ", ".intercalate (commandNames.map Text.quoted) ++ ")")

/-- Why a word is not a constraint. -/
def constraintObjection (s : String) : Option String :=
  match Request.ofText s with
  | .ok _ => none
  | .error f => some f.text

/-- The parameters of the tool. -/
def toolParameters : List Parameter :=
  [helpParameter, .ofOption "--log-file" .one false, .ofOption "--verbose" .flag false,
    ⟨[], "command", .rest, true, false, commandObjection⟩]

/-- The parameters of a command. -/
def commandParameters (name : String) : List Parameter :=
  let catalogue := Parameter.ofPlace "config"
  let dataset := Parameter.ofPlace "dataset"
  match name with
  | "info" => [helpParameter, catalogue, .ofOption "--dataset" .one false]
  | "extract" =>
    [helpParameter, catalogue, dataset, .ofOption "--variables" .many true,
      ⟨["--constraint"], "", .one, false, false, constraintObjection⟩,
      .ofOption "--output" .one true]
  | _ => [helpParameter, catalogue, dataset, .ofOption "--output" .one false]

/-! ### Reading -/

/-- The command with a name and the values that it was given. -/
def commandOf (name : String) (r : Reading) : Command :=
  let argument (label : String) : Argument := (r.argument? label).getD .blank
  let catalogue := (argument "config").text
  match name with
  | "info" => .info catalogue (r.argument? "--dataset")
  | "extract" =>
    .extract catalogue (argument "dataset") ((r.last? "--variables").getD [])
      ((r.arguments "--constraint").map fun a => a.word?.bind fun s => (Request.ofText s).toOption)
      (argument "--output")
  | _ => .plot catalogue (argument "dataset") (r.argument? "--output")

/-- Reads the words of a command line. -/
def Invocation.ofArguments (args : List String) : Except Refusal Invocation := do
  let outer ← (readArguments toolParameters args).mapError (Refusal.mk program)
  let words := (outer.last? "command").getD []
  let name := words.headD ""
  let inner ← (readArguments (commandParameters name) (words.drop 1)).mapError
    (Refusal.mk (program ++ " " ++ name))
  let extras := outer.extras ++ inner.extras
  if !extras.isEmpty then throw ⟨program, .fault (.unrecognized extras)⟩
  let logFile := (outer.argument? "--log-file").bind Argument.word?
  return ⟨logFile, (outer.last? "--verbose").isSome, commandOf name inner⟩

end GridUnion.CommandLine
