import GridUnion.Number
import GridUnion.Text.Blank
import GridUnion.Text.Quoted

/-!
# Arguments

The words of a command line are options and plain words.  An option is a word that begins with a
hyphen; it may be cut short as long as it is unique, and its value is the next word or follows an
equals sign.  Plain words go to the parameters without options, in order.  After two hyphens all
words are plain; the hyphens themselves are nothing that a parameter takes.
-/

namespace GridUnion.CommandLine

/-- How many words a parameter takes. -/
inductive Arity where
  /-- None: it is given or not. -/
  | flag
  | one
  /-- At least one. -/
  | many
  /-- One, and everything after it. -/
  | rest
  deriving DecidableEq, Repr

/-- Something that may be given on a command line. -/
structure Parameter where
  /-- The options that stand for it; without any it is a plain word. -/
  options : List String
  /-- The name of a parameter without options. -/
  place : String
  arity : Arity
  isRequired : Bool
  /-- Whether it asks for help, so that all else is of no matter. -/
  asksForHelp : Bool
  /-- What is wrong with a word. -/
  objection : String → Option String

/-- The name of a parameter in messages. -/
def Parameter.label (p : Parameter) : String :=
  if p.options.isEmpty then p.place else "/".intercalate p.options

/-- What is wrong with the words of a command line. -/
inductive UsageFault where
  | ambiguous (word : String) (options : List String)
  | expectedOne (parameter : String)
  | expectedMany (parameter : String)
  /-- A flag with a value. -/
  | unwanted (parameter word : String)
  | refused (parameter reason : String)
  | missing (parameters : List String)
  | unrecognized (words : List String)
  deriving DecidableEq, Repr

/-- The text of a fault. -/
def UsageFault.text : UsageFault → String
  | ambiguous word options =>
    "ambiguous option: " ++ word ++ " could match " ++ ", ".intercalate options
  | expectedOne p => "argument " ++ p ++ ": expected one argument"
  | expectedMany p => "argument " ++ p ++ ": expected at least one argument"
  | unwanted p word => "argument " ++ p ++ ": ignored explicit argument " ++ Text.quoted word
  | refused p reason => "argument " ++ p ++ ": " ++ reason
  | missing ps => "the following arguments are required: " ++ ", ".intercalate ps
  | unrecognized words => "unrecognized arguments: " ++ " ".intercalate words

/-- Why the words of a command line are not read to the end. -/
inductive Stop where
  | help
  | fault (f : UsageFault)
  deriving DecidableEq, Repr

/-! ### Options and plain words -/

/-- An option that a word may stand for, with a value attached to it. -/
structure Match where
  parameter : Parameter
  option : String
  attached : Option String

/-- What a word is. -/
inductive Mark where
  | plain
  /-- The first word that is two hyphens. -/
  | hyphens
  /-- An option, unless no parameter is known for it. -/
  | option (m : Option Match)

/-- A word with what it is. -/
structure Word where
  text : String
  mark : Mark

/-- Whether a word is an option. -/
def Word.isOption (w : Word) : Bool :=
  match w.mark with
  | .option _ => true
  | _ => false

/-- Whether a word is plain. -/
def Word.isPlain (w : Word) : Bool :=
  match w.mark with
  | .plain => true
  | _ => false

/-- Whether a word is the two hyphens. -/
def Word.isHyphens (w : Word) : Bool :=
  match w.mark with
  | .hyphens => true
  | _ => false

/-- All options with their parameters. -/
def optionsOf (ps : List Parameter) : List (String × Parameter) :=
  ps.flatMap fun p => p.options.map fun o => (o, p)

/-- A word before its first equals sign, and what follows the sign. -/
def splitValue (s : String) : String × Option String :=
  let cs := s.toList
  match cs.dropWhile (· != '=') with
  | [] => (s, none)
  | _ :: value => (String.ofList (cs.takeWhile (· != '=')), some (String.ofList value))

/-- A text without the line feed at its end. -/
def withoutLineFeed (cs : List Char) : List Char :=
  if cs.getLast? = some '\n' then cs.dropLast else cs

/-- Whether a text is a negative number in decimal digits, with a line feed at its end or
without. -/
def isNegativeNumber (s : String) : Bool :=
  let isDigit (c : Char) : Bool := (Text.decimalValue? c).isSome
  match withoutLineFeed s.toList with
  | '-' :: cs =>
    match cs.dropWhile isDigit with
    | [] => !cs.isEmpty
    | '.' :: decimals => !decimals.isEmpty && decimals.all isDigit
    | _ => false
  | _ => false

/-- The options that a word may be short for.  A word with a single hyphen may also be an option of
one letter with its value. -/
def candidates (ps : List Parameter) (s : String) : List Match :=
  if s.startsWith "--" then
    let (beginning, value) := splitValue s
    (optionsOf ps).filterMap fun (o, p) =>
      if o.startsWith beginning then some ⟨p, o, value⟩ else none
  else
    let short := String.ofList (s.toList.take 2)
    (optionsOf ps).filterMap fun (o, p) =>
      if o = short then some ⟨p, o, some (String.ofList (s.toList.drop 2))⟩
      else if o.startsWith s then some ⟨p, o, none⟩
      else none

/-- What a word in front of two hyphens is. -/
def markOf (ps : List Parameter) (s : String) : Except UsageFault Mark :=
  if !s.startsWith "-" || s == "-" then .ok .plain
  else match (optionsOf ps).lookup s with
    | some p => .ok (.option (some ⟨p, s, none⟩))
    | none =>
      let (name, value) := splitValue s
      match value, (optionsOf ps).lookup name with
      | some _, some p => .ok (.option (some ⟨p, name, value⟩))
      | _, _ =>
        match candidates ps s with
        | [m] => .ok (.option (some m))
        | [] =>
          if isNegativeNumber s || s.toList.contains ' ' then .ok .plain
          else .ok (.option none)
        | ms => .error (.ambiguous s (ms.map Match.option))

/-- The words of a command line with what they are. -/
def marked (ps : List Parameter) : List String → Except UsageFault (List Word)
  | [] => .ok []
  | s :: ss =>
    if s = "--" then .ok (⟨s, .hyphens⟩ :: ss.map fun t => ⟨t, .plain⟩)
    else do
      let m ← markOf ps s
      return ⟨s, m⟩ :: (← marked ps ss)

/-! ### Values -/

/-- What a parameter of one word was given. -/
inductive Argument where
  | word (s : String)
  /-- Two hyphens in the place of the word. -/
  | blank
  deriving DecidableEq, Repr

namespace Argument

/-- The argument of a parameter that took at most one word. -/
def ofWords : List String → Argument
  | [] => blank
  | s :: _ => word s

/-- The word, if there is one. -/
def word? : Argument → Option String
  | word s => some s
  | blank => none

/-- The argument as text: no word is an empty list. -/
def text (a : Argument) : String := a.word?.getD "[]"

end Argument

/-- The values that parameters were given, in order, and the words that no parameter takes. -/
structure Reading where
  given : List (String × List String)
  extras : List String
  deriving Repr

namespace Reading

/-- The values that a parameter was given last. -/
def last? (label : String) (r : Reading) : Option (List String) :=
  ((r.given.filter fun (l, _) => l == label).getLast?).map (·.2)

/-- What a parameter of one word was given last. -/
def argument? (label : String) (r : Reading) : Option Argument :=
  (r.last? label).map Argument.ofWords

/-- Everything that a parameter of one word was given, in order. -/
def arguments (label : String) (r : Reading) : List Argument :=
  (r.given.filter fun (l, _) => l == label).map fun (_, words) => .ofWords words

/-- Adds words that no parameter takes. -/
def addExtras (words : List String) (r : Reading) : Reading :=
  { r with extras := r.extras ++ words }

/-- Gives values to a parameter. -/
def give (p : Parameter) (values : List String) (r : Reading) : Except Stop Reading :=
  if p.asksForHelp then .error .help
  else
    let checked := if p.arity = .rest then values.take 1 else values
    match checked.findSome? p.objection with
    | some reason => .error (.fault (.refused p.label reason))
    | none => .ok { r with given := r.given ++ [(p.label, values)] }

end Reading

/-- The words that a plain parameter takes, and those after them. -/
def takePlain? (p : Parameter) (words : List Word) : Option (List String × List Word) :=
  let lead := words.takeWhile Word.isHyphens
  match words.dropWhile Word.isHyphens with
  | [] => none
  | w :: after =>
    if !w.isPlain then none
    else if p.arity = .rest then some (words.map Word.text, [])
    else
      let trail := after.takeWhile Word.isHyphens
      let texts := (lead ++ w :: trail).map Word.text
      some (texts.erase "--", after.dropWhile Word.isHyphens)

/-- Gives words to as many plain parameters as there are words for. -/
def givePlain : List Parameter → List Word → Reading →
    Except Stop (List Parameter × List Word × Reading)
  | [], words, r => .ok ([], words, r)
  | p :: ps, words, r =>
    match takePlain? p words with
    | none => .ok (p :: ps, words, r)
    | some (values, after) => do
      let r ← r.give p values
      givePlain ps after r

/-- Gives an option the words after it. -/
def giveFollowing (p : Parameter) (after : List Word) (r : Reading) :
    Except Stop (List Word × Reading) := do
  match p.arity, after with
  | .flag, _ => return (after, ← r.give p [])
  | .one, w :: ws =>
    if w.isPlain then return (ws, ← r.give p [w.text])
    else throw (.fault (.expectedOne p.label))
  | .one, [] => throw (.fault (.expectedOne p.label))
  | _, ws =>
    let taken := ws.takeWhile Word.isPlain
    if taken.isEmpty then throw (.fault (.expectedMany p.label))
    return (ws.dropWhile Word.isPlain, ← r.give p (taken.map Word.text))

/-- The parameters of options of one letter that are written together, and the value attached to
the last of them: `p` is the first one, followed by these letters.  All but the last are flags. -/
def together (ps : List Parameter) (p : Parameter) :
    List Char → Except UsageFault (List Parameter × Parameter × Option String)
  | [] => .ok ([], p, none)
  | c :: cs =>
    if p.arity ≠ .flag then .ok ([], p, some (String.ofList (c :: cs)))
    else match (optionsOf ps).lookup (String.ofList ['-', c]) with
      | none => .error (.unwanted p.label (String.ofList (c :: cs)))
      | some q => (together ps q cs).map fun (flags, last) => (p :: flags, last)

/-- Gives an option the value attached to it, or the words after it.  Two hyphens that are attached
are no value, and what is attached to a flag of one letter are more options of one letter. -/
def giveOption (ps : List Parameter) (m : Match) (after : List Word) (r : Reading) :
    Except Stop (List Word × Reading) := do
  let p := m.parameter
  match m.attached with
  | none => giveFollowing p after r
  | some value =>
    if p.arity ≠ .flag then return (after, ← r.give p ([value].erase "--"))
    else if m.option.startsWith "--" || value == "" then throw (.fault (.unwanted p.label value))
    else
      let (flags, last, value) ← (together ps p value.toList).mapError Stop.fault
      let r ← flags.foldlM (fun r q => r.give q []) r
      match value with
      | none => giveFollowing last after r
      | some value => return (after, ← r.give last ([value].erase "--"))

/-- Reads words; `plain` are the plain parameters without words so far. -/
def readWords (ps : List Parameter) :
    (fuel : Nat) → (plain : List Parameter) → List Word → Reading → Except Stop Reading
  | 0, _, _, r => .ok r
  | fuel + 1, plain, words, r => do
    if !words.any Word.isOption then
      let (_, words, r) ← givePlain plain words r
      return r.addExtras (words.map Word.text)
    else
      match words with
      | ⟨text, .option none⟩ :: after => readWords ps fuel plain after (r.addExtras [text])
      | ⟨_, .option (some m)⟩ :: after =>
        let (after, r) ← giveOption ps m after r
        readWords ps fuel plain after r
      | _ =>
        let (left, after, r) ← givePlain plain words r
        if after.length < words.length then readWords ps fuel left after r
        else
          let skipped := words.takeWhile fun w => !w.isOption
          readWords ps fuel left (words.drop skipped.length) (r.addExtras (skipped.map Word.text))

/-- Reads a command line.  Everything that is required has to be given. -/
def readArguments (ps : List Parameter) (args : List String) : Except Stop Reading := do
  let words ← (marked ps args).mapError Stop.fault
  let plain := ps.filter fun p => p.options.isEmpty
  let fuel := 2 * words.length + (args.map String.length).sum + 2
  let r ← readWords ps fuel plain words ⟨[], []⟩
  let missing := ps.filter fun p => p.isRequired && (r.last? p.label).isNone
  if !missing.isEmpty then throw (.fault (.missing (missing.map Parameter.label)))
  return r

end GridUnion.CommandLine
