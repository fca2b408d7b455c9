import GridUnion.Axis.IndexTable

/-!
# Times on axes

Axes of times are merged as numbers: nanoseconds since the start of 1970 in integers of 64 bits.
-/

namespace GridUnion.Times

/-- A count of nanoseconds as an integer. -/
def wordOf : Element → Element
  | .time c => .int (Count.toWord c)
  | e => e

/-- An integer as a count of nanoseconds. -/
def countOf : Element → Element
  | .int n => .time (Count.ofWord n)
  | e => e

/-- The values as instants in nanoseconds, as integers. -/
def toNanoseconds (b : Block) : Except Failure Block := do
  let instants ← liftConversion (b.convert .nanoseconds)
  return instants.map .int64 wordOf

/-- Numbers as instants in nanoseconds; a fraction of a nanosecond is dropped. -/
def ofNanoseconds (b : Block) : Except Failure Block := do
  let words ← liftConversion (b.convert .int64)
  return words.map .nanoseconds countOf

/-- A value as instants in nanoseconds, as integers. -/
def valueToNanoseconds (v : Value) : Except Failure Block := do
  toNanoseconds (← liftConversion (Block.ofValue v))

/-- A value as integers, which are instants in nanoseconds. -/
def valueOfNanoseconds (v : Value) : Except Failure Block := do
  ofNanoseconds (← IndexTable.blockIn .int64 v)

end GridUnion.Times
