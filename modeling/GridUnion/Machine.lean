import GridUnion.Failure

/-!
# Machines

What the program is told by the machine it runs on: for how large a block there may be space, and
which texts the console can show.
-/

namespace GridUnion

/-- A machine to run on. -/
class Machine where
  /-- The greatest number of bytes for which there may be space.  Sizes are counted in words. -/
  room : Nat
  room_lt : room < 2 ^ 63
  /-- Why the console refuses a text, unless it shows it. -/
  refusal? : String → Option String

namespace Machine

/-- A machine with space for 2 ^ 40 bytes and a console that shows every text.  It is meant where no
other machine is named. -/
instance usual : Machine where
  room := 2 ^ 40
  room_lt := by decide
  refusal? _ := none

/-- Why a console that takes UTF-8 refuses a text: no surrogate has bytes there. -/
def utf8Refusal? (text : String) : Option String :=
  (Text.lostFrom Text.isStandIn 0 text.toList).map fun (place, cs) =>
    ConversionFault.unencodableText "utf-8" "surrogates not allowed" place cs

/-- A machine with a console that takes UTF-8. -/
@[reducible] def terminal : Machine := { usual with refusal? := utf8Refusal? }

end Machine

end GridUnion
