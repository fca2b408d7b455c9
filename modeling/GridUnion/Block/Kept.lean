import GridUnion.Block

/-!
# Blocks in tables and grids

A table or grid keeps times in seconds, in nanoseconds, or in a unit between them.  Years and months
become seconds by the calendar, and a time for which there is no word is refused.
-/

namespace GridUnion

/-- A time in the unit in which it is kept. -/
def Scalar.kept (s : Scalar) : Except ConversionFault Element :=
  match s.element with
  | .time c =>
    match Count.kept? s.type.timeUnit c, c, s.type with
    | some c, _, _ => .ok (.time c)
    | none, some n, .instant u => .error (.instantTooFar (Count.secondsOf u n))
    | none, _, t => .error (.durationTooLong s (.duration t.timeUnit.kept))
  | e => .ok e

/-- A block as it is kept. -/
def Block.kept (b : Block) : Except ConversionFault Block :=
  match b.type with
  | .instant u => b.mapM (.instant u.kept) fun e => Scalar.kept ⟨b.type, e⟩
  | .duration u => b.mapM (.duration u.kept) fun e => Scalar.kept ⟨b.type, e⟩
  | _ => .ok b

end GridUnion
