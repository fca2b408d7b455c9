import GridUnion.Request
import GridUnion.Text.Numeral

/-!
# Constraints

A constraint on the command line is `START:STRIDE:STOP`, `START:STOP` or a single position.
-/

namespace GridUnion.Request

/-- The request of one, two or three numbers. -/
def ofNumbers? : List Int → Option Request
  | [position] => some ⟨position, 1, position⟩
  | [start, stop] => some ⟨start, 1, stop⟩
  | [start, stride, stop] => some ⟨start, stride, stop⟩
  | _ => none

/-- The numbers of a list of texts, if all of them are numbers. -/
def numbers? (parts : List String) : Option (List Int) :=
  parts.mapM fun p => (Text.readInt p).toOption

/-- The parts of a text between its colons. -/
def parts (s : String) : List String := (s.toList.splitOn ':').map String.ofList

/-- Reads a constraint. -/
def ofText (s : String) : Except Failure Request :=
  match (numbers? (parts s)).bind ofNumbers? with
  | some r => .ok r
  | none => .error (.badConstraint s)

end GridUnion.Request
