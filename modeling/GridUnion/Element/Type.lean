import GridUnion.Time.Unit
import GridUnion.Double

/-!
# Element types

The values of a grid all have one element type: truth values, machine integers, floating point
numbers, times in a unit, text of a limited width, or values of any kind.
-/

namespace GridUnion

/-- The size of a machine integer. -/
inductive WordSize where
  | w8 | w16 | w32 | w64
  deriving DecidableEq, Repr, Inhabited

namespace WordSize

def bits : WordSize → Nat
  | w8 => 8 | w16 => 16 | w32 => 32 | w64 => 64

/-- The next larger size. -/
def double? : WordSize → Option WordSize
  | w8 => some w16 | w16 => some w32 | w32 => some w64 | w64 => none

/-- The larger of two sizes. -/
def max (a b : WordSize) : WordSize := if a.bits < b.bits then b else a

end WordSize

/-- The type of the values of a grid. -/
inductive ElementType where
  | bool
  | signed (size : WordSize)
  | unsigned (size : WordSize)
  /-- Floating point numbers of 32 bits. -/
  | single
  /-- Floating point numbers of 64 bits. -/
  | double
  | instant (unit : TimeUnit)
  | duration (unit : TimeUnit)
  /-- Text of at most `width` characters. -/
  | text (width : Nat)
  /-- Values of any kind. -/
  | object
  deriving DecidableEq, Repr, Inhabited

namespace ElementType

/-- Signed integers of 64 bits. -/
abbrev int64 : ElementType := signed .w64

/-- Instants in nanoseconds. -/
abbrev nanoseconds : ElementType := instant .nano

/-- A unit in brackets, left out if it is not chosen. -/
def unitText (u : TimeUnit) : String :=
  if u = .generic then "" else "[" ++ u.symbol ++ "]"

/-- The name of a type. -/
def name : ElementType → String
  | bool => "bool"
  | signed size => "int" ++ toString size.bits
  | unsigned size => "uint" ++ toString size.bits
  | single => "float32"
  | double => "float64"
  | instant unit => "datetime64" ++ unitText unit
  | duration unit => "timedelta64" ++ unitText unit
  | text width => "<U" ++ toString width
  | object => "object"

/-- The types whose names hold no unit and no width. -/
def plainTypes : List ElementType :=
  [bool, signed .w8, signed .w16, signed .w32, signed .w64, unsigned .w8, unsigned .w16,
    unsigned .w32, unsigned .w64, single, double, object]

/-- The unit in brackets after the first `n` characters of a name. -/
def unitAfter? (n : Nat) (s : String) : Option TimeUnit :=
  match s.toList.drop n with
  | [] => some .generic
  | '[' :: rest => TimeUnit.ofSymbol? (String.ofList rest.dropLast)
  | _ => none

/-- The type of a name. -/
def ofName? (s : String) : Option ElementType :=
  match plainTypes.find? fun t => t.name == s with
  | some t => some t
  | none =>
    if s.startsWith "datetime64" then (unitAfter? 10 s).map instant
    else if s.startsWith "timedelta64" then (unitAfter? 11 s).map duration
    else if s.startsWith "<U" then
      (String.ofList (s.toList.drop 2)).toNat?.map fun width => text (max 1 width)
    else none

/-- The name of the family of a type, as it is given where two types cannot be joined. -/
def className (t : ElementType) : String :=
  let stem := match t with
    | bool => "Bool"
    | signed size => "Int" ++ toString size.bits
    | unsigned size => "UInt" ++ toString size.bits
    | single => "Float32"
    | double => "Float64"
    | instant _ => "DateTime64"
    | duration _ => "TimeDelta64"
    | text _ => "Str"
    | object => "Object"
  "<class 'numpy.dtypes." ++ stem ++ "DType'>"

/-- Floating point types. -/
def isReal : ElementType → Bool
  | single => true
  | double => true
  | _ => false

def isInstant : ElementType → Bool
  | instant _ => true
  | _ => false

def isDuration : ElementType → Bool
  | duration _ => true
  | _ => false

/-- The unit of a type of times. -/
def timeUnit : ElementType → TimeUnit
  | instant u => u
  | duration u => u
  | _ => .generic

/-- The name of a type of times in short. -/
def shortName : ElementType → String
  | instant u => "<M8" ++ unitText u
  | duration u => "<m8" ++ unitText u
  | t => t.name

/-- The integers of a type: the least and the greatest. -/
def bounds? : ElementType → Option (Int × Int)
  | signed size => some (-2 ^ (size.bits - 1), 2 ^ (size.bits - 1) - 1)
  | unsigned size => some (0, 2 ^ size.bits - 1)
  | _ => none

/-- The integer of a type with the same remainder. -/
def wrap (t : ElementType) (n : Int) : Int :=
  match t with
  | signed size => Int.bmod n (2 ^ size.bits)
  | unsigned size => Int.emod n (2 ^ size.bits)
  | _ => n

/-- The greatest width of a number of this type as text. -/
def textWidth : ElementType → Nat
  | bool => 5
  | signed .w8 => 4
  | unsigned .w8 => 3
  | signed .w16 => 6
  | unsigned .w16 => 5
  | signed .w32 => 11
  | unsigned .w32 => 10
  | signed .w64 => 21
  | unsigned .w64 => 20
  | single => 32
  | double => 32
  | instant _ => 28
  | duration _ => 21
  | text width => width
  | object => 0

/-- The bytes of an element. -/
def byteSize : ElementType → Nat
  | bool => 1
  | signed size => size.bits / 8
  | unsigned size => size.bits / 8
  | single => 4
  | text width => 4 * width
  | _ => 8

end ElementType

end GridUnion
