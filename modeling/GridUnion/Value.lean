import GridUnion.Block.Layout

/-!
# Values

A value is a piece of metadata: an attribute, a name, a title, or what a configuration file holds.
`Value.text` is its plain text, `Value.shown` the text that tells values of different kinds apart,
and `Value.formatted` the text inside a message.
-/

namespace GridUnion

/-- A date with a time of day and perhaps an offset from universal time in minutes. -/
structure Moment where
  year : Nat
  month : Nat
  day : Nat
  hour : Nat
  minute : Nat
  second : Nat
  micro : Nat
  offset : Option Int
  deriving DecidableEq, Repr, Inhabited

/-- A piece of metadata. -/
inductive Value where
  | null
  | bool (b : Bool)
  | int (n : Int)
  | real (x : Double)
  | text (s : String)
  | bytes (bs : List UInt8)
  | date (year month day : Nat)
  | moment (m : Moment)
  | list (items : List Value)
  | tuple (items : List Value)
  | set (items : List Value)
  /-- Keys with their values, in order. -/
  | dict (entries : List (Value × Value))
  | scalar (s : Scalar)
  | block (b : Block)
  /-- The list or mapping this many levels further out, which contains itself. -/
  | enclosing (depth : Nat) (isMapping : Bool)
  /-- Not a number, as an object of its own; `real .nan` is the usual one. -/
  | nan (object : Nat)
  deriving Repr, Inhabited

namespace Moment

/-- The date alone. -/
def dateText (year month day : Nat) : String :=
  Count.padded 4 year ++ "-" ++ Count.padded 2 month ++ "-" ++ Count.padded 2 day

/-- An offset in hours and minutes. -/
def offsetText (minutes : Int) : String :=
  (if minutes < 0 then "-" else "+") ++ Count.padded 2 (minutes.natAbs / 60) ++ ":" ++
    Count.padded 2 (minutes.natAbs % 60)

/-- Date and time of day with a separator between them. -/
def isoText (separator : String) (m : Moment) : String :=
  let clock := Count.padded 2 m.hour ++ ":" ++ Count.padded 2 m.minute ++ ":" ++
    Count.padded 2 m.second
  dateText m.year m.month m.day ++ separator ++ clock ++
    (if m.micro = 0 then "" else "." ++ Count.padded 6 m.micro) ++
    (m.offset.map offsetText).getD ""

/-- The microseconds of universal time since the start of 1970, if the offset is known. -/
def universal? (m : Moment) : Option Int :=
  m.offset.map fun offset =>
    let minutes := 1440 * Calendar.dayNumber m.year m.month m.day + 60 * m.hour + m.minute - offset
    1000000 * (60 * minutes + m.second) + m.micro

/-- Whether two moments are the same: with their offsets, the same instant. -/
def equals (a b : Moment) : Bool :=
  match a.universal?, b.universal? with
  | some s, some t => s == t
  | none, none => a == b
  | _, _ => false

/-- A duration in minutes as it is shown, in days and seconds. -/
def shownDuration (minutes : Int) : String :=
  let days := Int.fdiv minutes 1440
  let seconds := 60 * Int.fmod minutes 1440
  let parts := (if days = 0 then [] else ["days=" ++ toString days]) ++
    (if seconds = 0 then [] else ["seconds=" ++ toString seconds])
  "datetime.timedelta(" ++ ", ".intercalate parts ++ ")"

/-- An offset as it is shown. -/
def shownOffset (minutes : Int) : String :=
  if minutes = 0 then "datetime.timezone.utc"
  else "datetime.timezone(" ++ shownDuration minutes ++ ")"

/-- Date and time of day as they are shown; trailing zeros are left out. -/
def shown (m : Moment) : String :=
  let tail :=
    if m.micro ≠ 0 then [m.second, m.micro]
    else if m.second ≠ 0 then [m.second]
    else []
  let fields := ([m.year, m.month, m.day, m.hour, m.minute] ++ tail).map fun n => toString n
  let zone := (m.offset.map fun o => ["tzinfo=" ++ shownOffset o]).getD []
  "datetime.datetime(" ++ ", ".intercalate (fields ++ zone) ++ ")"

end Moment

namespace Value

mutual

/-- A value as it is shown inside a list or a message. -/
def shown : Value → String
  | null => "None"
  | bool b => if b then "True" else "False"
  | int n => toString n
  | real x => x.text
  | text s => Text.quoted s
  | bytes bs => Text.quotedBytes bs
  | date y m d => "datetime.date(" ++ ", ".intercalate [toString y, toString m, toString d] ++ ")"
  | moment m => m.shown
  | list items => "[" ++ ", ".intercalate (shownItems items) ++ "]"
  | tuple [item] => "(" ++ item.shown ++ ",)"
  | tuple items => "(" ++ ", ".intercalate (shownItems items) ++ ")"
  | set [] => "set()"
  | set items => "\x7b" ++ ", ".intercalate (shownItems items) ++ "\x7d"
  | dict entries => "\x7b" ++ ", ".intercalate (shownEntries entries) ++ "\x7d"
  | scalar s => s.shown
  | block b => b.shown
  | enclosing _ isMapping => if isMapping then "\x7b...\x7d" else "[...]"
  | nan _ => Double.nan.text

/-- Several values as they are shown. -/
def shownItems : List Value → List String
  | [] => []
  | v :: vs => v.shown :: shownItems vs

/-- Keys and values as they are shown. -/
def shownEntries : List (Value × Value) → List String
  | [] => []
  | (k, v) :: es => (k.shown ++ ": " ++ v.shown) :: shownEntries es

end

/-- The plain text of a value. -/
def plain : Value → String
  | text s => s
  | date y m d => Moment.dateText y m d
  | moment m => m.isoText " "
  | scalar s => s.text
  | block b => b.text
  | v => v.shown

/-- The text of a value inside a message. -/
def formatted : Value → String
  | scalar s => s.formatted
  | block b => match b.scalar? with
    | some s => s.formatted
    | none => b.text
  | v => v.plain

/-- The least whole number with more digits than are put into text. -/
def tooLong : Nat := 10 ^ 4300

mutual

/-- Whether a whole number in a value has too many digits to be put into text. -/
def isTooLong : Value → Bool
  | int n => tooLong ≤ n.natAbs
  | list items => anyTooLong items
  | tuple items => anyTooLong items
  | set items => anyTooLong items
  | dict entries => anyEntryTooLong entries
  | _ => false

/-- Whether a whole number in several values has too many digits. -/
def anyTooLong : List Value → Bool
  | [] => false
  | v :: vs => v.isTooLong || anyTooLong vs

/-- Whether a whole number in several entries has too many digits. -/
def anyEntryTooLong : List (Value × Value) → Bool
  | [] => false
  | (k, v) :: es => k.isTooLong || v.isTooLong || anyEntryTooLong es

end

/-- The name of the kind of a scalar. -/
def scalarKind (t : ElementType) : String :=
  "numpy." ++ match t with
    | .text _ => "str_"
    | .instant _ => "datetime64"
    | .duration _ => "timedelta64"
    | t => t.name

/-- The name of the kind of a value. -/
def kindName : Value → String
  | null => "NoneType"
  | bool _ => "bool"
  | int _ => "int"
  | real _ => "float"
  | text _ => "str"
  | bytes _ => "bytes"
  | date _ _ _ => "date"
  | moment _ => "datetime"
  | list _ => "list"
  | tuple _ => "tuple"
  | set _ => "set"
  | dict _ => "dict"
  | scalar s => scalarKind s.type
  | block _ => "numpy.ndarray"
  | enclosing _ isMapping => if isMapping then "dict" else "list"
  | nan _ => "float"

/-- Whether a value counts as something: not nothing, zero or empty. -/
def isSomething : Value → Bool
  | null => false
  | bool b => b
  | int n => n != 0
  | real x => x.isNonzero
  | text s => s != ""
  | bytes bs => !bs.isEmpty
  | list items => !items.isEmpty
  | tuple items => !items.isEmpty
  | set items => !items.isEmpty
  | dict entries => !entries.isEmpty
  | _ => true

mutual

/-- The kind of the first part of a value that cannot be a key. -/
def unhashable? : Value → Option String
  | list _ => some "list"
  | set _ => some "set"
  | dict _ => some "dict"
  | block _ => some "numpy.ndarray"
  | enclosing _ isMapping => some (if isMapping then "dict" else "list")
  | tuple items => unhashableIn? items
  | _ => none

/-- The kind of the first value of a list that cannot be a key. -/
def unhashableIn? : List Value → Option String
  | [] => none
  | v :: vs => match unhashable? v with
    | some k => some k
    | none => unhashableIn? vs

end

/-- The scalar that a value is, if it is one; a plain value has no type of its own. -/
def scalar? : Value → Option Scalar
  | null => some ⟨.object, .null⟩
  | bool b => some ⟨.object, .bool b⟩
  | int n => some ⟨.object, .int n⟩
  | real x => some ⟨.object, .real x⟩
  | nan _ => some ⟨.object, .real .nan⟩
  | text s => some ⟨.object, .text s⟩
  | scalar s => some s
  | _ => none

mutual

/-- Whether two values are equal; scalars are compared by value, mappings without order. -/
def equals (a b : Value) : Bool :=
  match scalar? a, scalar? b with
  | some s, some t => s.equals t
  | some _, none => false
  | none, some _ => false
  | none, none =>
    match a, b with
    | bytes x, bytes y => x == y
    | date y m d, date y' m' d' => y == y' && m == m' && d == d'
    | moment m, moment n => m.equals n
    | list xs, list ys => equalItems xs ys
    | tuple xs, tuple ys => equalItems xs ys
    | set xs, set ys => xs.length == ys.length && allIn xs ys
    | dict xs, dict ys => xs.length == ys.length && allEntriesIn xs ys
    | block x, block y => x.equals y
    | _, _ => false

/-- Whether two lists have equal values in the same order. -/
def equalItems : List Value → List Value → Bool
  | [], [] => true
  | x :: xs, y :: ys => x.equals y && equalItems xs ys
  | _, _ => false

/-- Whether every value of one list equals one of the other. -/
def allIn : List Value → List Value → Bool
  | [], _ => true
  | x :: xs, ys => ys.any (fun y => x.equals y) && allIn xs ys

/-- Whether every entry of one mapping has an equal one in the other. -/
def allEntriesIn : List (Value × Value) → List (Value × Value) → Bool
  | [], _ => true
  | (k, v) :: es, fs => fs.any (fun (k', v') => k.equals k' && v.equals v') && allEntriesIn es fs

end

/-- Whether two values are the same key of a table: they are equal, or one object.  Objects are told
apart only for what is not a number, which is equal to nothing. -/
def isSame (a b : Value) : Bool :=
  match a, b with
  | real .nan, real .nan => true
  | nan m, nan n => m == n
  | a, b => a.equals b

/-- The value of a key. -/
def lookup? (key : Value) (entries : List (Value × Value)) : Option Value :=
  (entries.find? fun (k, _) => k.equals key).map (·.2)

/-- The entries with a key set to a value; a key that is there keeps its place. -/
def insertEntry (key value : Value) : List (Value × Value) → List (Value × Value)
  | [] => [(key, value)]
  | (k, v) :: es => if k.equals key then (k, value) :: es else (k, v) :: insertEntry key value es

mutual

/-- The value with `v` in the place of the list or mapping `depth` levels further out. -/
def replaceEnclosing (depth : Nat) (v : Value) : Value → Value
  | enclosing d isMapping => if d = depth then v else enclosing d isMapping
  | list items => list (replaceInItems (depth + 1) v items)
  | tuple items => tuple (replaceInItems (depth + 1) v items)
  | dict entries => dict (replaceInEntries (depth + 1) v entries)
  | other => other

/-- The replacement in every value of a list. -/
def replaceInItems (depth : Nat) (v : Value) : List Value → List Value
  | [] => []
  | x :: xs => replaceEnclosing depth v x :: replaceInItems depth v xs

/-- The replacement in every value of a mapping. -/
def replaceInEntries (depth : Nat) (v : Value) : List (Value × Value) → List (Value × Value)
  | [] => []
  | (k, x) :: es => (k, replaceEnclosing depth v x) :: replaceInEntries depth v es

end

/-- A list or mapping whose parts no longer refer out of themselves. -/
def opened (v : Value) : Value :=
  match v with
  | list items => list (replaceInItems 0 v items)
  | tuple items => tuple (replaceInItems 0 v items)
  | dict entries => dict (replaceInEntries 0 v entries)
  | other => other

end Value

end GridUnion
