import GridUnion.Files
import GridUnion.Drawing
import GridUnion.Journal
import GridUnion.Machine

/-!
# Sessions

A session is what the program has done so far and what it can see: the files, how many grids it has
opened, which children it has asked to close and in which order, its notes, the lines it has printed,
and the grids and drawings it has put out.
An action gives a result or a failure, and in either case a session.
-/

namespace GridUnion

/-- What the program can see and has done. -/
structure Session where
  files : Files
  /-- How many grids were opened or made for children.  They are numbered in order. -/
  opened : Nat
  /-- The children that were asked to close, in order, each as often as it was asked. -/
  closings : List Child
  notes : List Note
  printed : List String
  /-- The grids that were written, with their paths. -/
  written : List (String × Grid)
  drawn : Drawing
  deriving Inhabited

/-- A step of the program: a result or a failure, and the session after it. -/
def Action (α : Type) := Session → Except Failure α × Session

namespace Action

variable {α β : Type}

instance : Monad Action where
  pure a := fun s => (.ok a, s)
  bind x f := fun s =>
    match x s with
    | (.ok a, s) => f a s
    | (.error e, s) => (.error e, s)

/-- A result that does not depend on the session. -/
def of (r : Except Failure α) : Action α := fun s => (r, s)

/-- A failure. -/
def fail (f : Failure) : Action α := fun s => (.error f, s)

instance : MonadLift (Except Failure) Action := ⟨of⟩

/-- A change of the session. -/
def change (f : Session → Session) : Action Unit := fun s => (.ok (), f s)

/-- A change of the files, unless it fails. -/
def changeFiles (f : Files → Except Failure Files) : Action Unit := fun s =>
  match f s.files with
  | .ok fs => (.ok (), { s with files := fs })
  | .error e => (.error e, s)

/-- What a function makes of the session. -/
def ask (f : Session → α) : Action α := fun s => (.ok (f s), s)

/-- A result whose notes go to the session. -/
def ofNoted (x : Noted α) : Action α := fun s => (x.result, { s with notes := s.notes ++ x.notes })

instance : MonadLift Noted Action := ⟨ofNoted⟩

/-- Makes a note. -/
def note (level : Level) (topic : Topic) (text : String) : Action Unit :=
  change fun s => { s with notes := s.notes ++ [⟨level, topic, text⟩] }

/-- Prints a text and ends the line, unless the console refuses the text. -/
def print [Machine] (text : String) : Action Unit := fun s =>
  match Machine.refusal? text with
  | some reason => (.error (.raised (.other "UnicodeEncodeError") reason), s)
  | none => (.ok (), { s with printed := s.printed ++ [text] })

/-- Draws.  Drawing is taken not to fail. -/
def draw (d : Drawing) : Action Unit := change fun s => { s with drawn := s.drawn ++ d }

/-- Writes a grid to a path.  Writing is taken not to fail. -/
def write (path : String) (g : Grid) : Action Unit :=
  change fun s => { s with written := s.written ++ [(path, g)] }

/-- An action that gives its failure as a result. -/
def attempt (x : Action α) : Action (Except Failure α) := fun s =>
  let (r, s) := x s
  (.ok r, s)

end Action

namespace Session

/-- Asks a child to close.  Closing is taken not to fail. -/
def closeChild (c : Child) (s : Session) : Session := { s with closings := s.closings ++ [c] }

/-- Closes several children in order. -/
def closeChildren (cs : List Child) (s : Session) : Session :=
  cs.foldl (fun s c => s.closeChild c) s

theorem closeChildren_eq (cs : List Child) (s : Session) :
  s.closeChildren cs = { s with closings := s.closings ++ cs }
  := by
  induction cs generalizing s with
  | nil => simp [closeChildren]
  | cons c cs ih =>
    rw [closeChildren, List.foldl_cons, ← closeChildren, ih]
    simp [closeChild]

/-- The grids from outside that are closed, in the order in which they were first asked to. -/
def closed (s : Session) : List Handle := (s.closings.filterMap Child.handle?).eraseDups

end Session

end GridUnion
