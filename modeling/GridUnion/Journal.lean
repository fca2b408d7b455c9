import GridUnion.Failure

/-!
# Journal

What the program notes while it works: notes with a level and a topic.
-/

namespace GridUnion

/-- How much a note matters. -/
inductive Level where
  | debug | info | warning | error | critical
  deriving DecidableEq, Repr

namespace Level

def name : Level → String
  | debug => "DEBUG" | info => "INFO" | warning => "WARNING" | error => "ERROR"
  | critical => "CRITICAL"

/-- A number that grows with the level. -/
def weight : Level → Nat
  | debug => 10 | info => 20 | warning => 30 | error => 40 | critical => 50

end Level

/-- The part of the program that a note is about. -/
inductive Topic where
  | axes | reads | children | datasets | catalogue | registry | tool
  deriving DecidableEq, Repr

/-- The name under which a topic is noted. -/
def Topic.name : Topic → String
  | axes => "sidebyside.merger"
  | reads => "sidebyside.fetcher"
  | children => "sidebyside.child"
  | datasets => "sidebyside.dataset"
  | catalogue => "sidebyside.config"
  | registry => "sidebyside.registry"
  | tool => "sidebyside"

/-- One note. -/
structure Note where
  level : Level
  topic : Topic
  text : String
  deriving DecidableEq, Repr

/-- A result, or what went wrong, with the notes made on the way. -/
structure Noted (α : Type) where
  result : Except Failure α
  notes : List Note

namespace Noted

/-- A result with no notes. -/
def of {α : Type} (result : Except Failure α) : Noted α := ⟨result, []⟩

/-- Continues after a result; a failure keeps the notes made so far. -/
def bind {α β : Type} (x : Noted α) (f : α → Noted β) : Noted β :=
  match x.result with
  | .error e => ⟨.error e, x.notes⟩
  | .ok a =>
    let y := f a
    ⟨y.result, x.notes ++ y.notes⟩

instance : Monad Noted where
  pure a := ⟨.ok a, []⟩
  bind := bind

instance : MonadLift (Except Failure) Noted := ⟨of⟩

/-- Makes a note. -/
def note (level : Level) (topic : Topic) (text : String) : Noted Unit :=
  ⟨.ok (), [⟨level, topic, text⟩]⟩

end Noted

end GridUnion
