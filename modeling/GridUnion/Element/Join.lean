import GridUnion.Element.Type

/-!
# The common type of several types

A family is a type without its unit and width.  Families are ranked, and one knows of those ranked
below it whether it joins with them.  Several families are joined under a leader: rounds of meetings
find it, the first with the last, the second with the last but one, and so on, and all others must
join with it.  `ElementType.commonOf` then joins the units and widths from the first type on.
-/

namespace GridUnion

/-- Why types have no common type. -/
inductive JoinFault where
  /-- The first family does not join with the second. -/
  | apart (family leader : ElementType)
  | units (fault : UnitFault)
  deriving DecidableEq, Repr

namespace ElementType

/-- The order in which families know of each other. -/
def rank : ElementType → Nat
  | bool => 0
  | signed size => 1 + size.bits
  | unsigned size => 2 + size.bits
  | single => 100
  | double => 101
  | object => 102
  | text _ => 103
  | instant _ => 104
  | duration _ => 105

/-- The family of a type. -/
def family : ElementType → ElementType
  | instant _ => instant .generic
  | duration _ => duration .generic
  | text _ => text 0
  | t => t

/-- Numbers and truth values. -/
def isNumeric (t : ElementType) : Bool := t.rank ≤ double.rank

/-- Whole numbers and truth values that are counts of a unit of time as well. -/
def isCount : ElementType → Bool
  | bool | signed _ => true
  | unsigned size => size != .w64
  | _ => false

/-- The type of the sum of a signed and an unsigned integer type. -/
def commonInteger (s u : WordSize) : ElementType :=
  if u.bits < s.bits then signed s
  else match u.double? with
    | some d => signed d
    | none => double

/-- The family of the values of two families of numbers, the second ranked below the first. -/
def joinNumbers? : ElementType → ElementType → Option ElementType
  | double, _ => some double
  | single, signed size | single, unsigned size =>
    some (if size.bits ≤ 16 then single else double)
  | single, bool => some single
  | unsigned u, unsigned v => some (unsigned (u.max v))
  | unsigned u, signed s | signed s, unsigned u => some (commonInteger s u)
  | signed s, signed r => some (signed (s.max r))
  | t, bool => some t
  | _, _ => none

/-- The family of the values of two families, as far as the first one knows. -/
def joinKnown? (a b : ElementType) : Option ElementType :=
  if a = b then some a
  else match a with
    | object => some object
    | text _ => if b.isNumeric then some a else none
    | instant _ => if b.isDuration then some a else if b = object then some b else none
    | duration _ => if b.isCount then some a else if b = object then some b else none
    | a => if b.rank < a.rank then joinNumbers? a b else none

/-- Two families that have met: the one that goes on, the other unless it makes no difference any
more, and what they have in common if the first knows. -/
structure Meeting where
  onward : ElementType
  behind : Option ElementType
  joined : Option ElementType

/-- The meeting of two families.  The first goes on if it knows of the second. -/
def meet (a b : ElementType) : Meeting :=
  match joinKnown? a b with
  | some t => ⟨a, if t = a then none else some b, some t⟩
  | none => ⟨b, some a, none⟩

/-- Families after all rounds: the leader, what it has in common with the one it met last, that
one, and those left behind. -/
structure Ranking where
  leader : ElementType
  joined : Option ElementType
  second : Option ElementType
  others : List (Option ElementType)

/-- The rounds of meetings of a family and at least one other; one is left over in an odd round. -/
def rounds : (fuel : Nat) → List ElementType → Option Ranking
  | _, [] => none
  | _, [a] => some ⟨a, some a, none, []⟩
  | _, [a, b] =>
    let m := meet a b
    some ⟨m.onward, m.joined, m.behind, []⟩
  | 0, _ => none
  | fuel + 1, l =>
    let half := l.length / 2
    let rest := l.drop half
    let spare := rest.take (l.length - 2 * half)
    let meetings := (l.take half).zipWith meet (rest.drop spare.length).reverse
    (rounds fuel (meetings.map Meeting.onward ++ spare)).map fun r =>
      { r with others := r.others ++ (meetings.map Meeting.behind).reverse }

/-- The family of the values of two families. -/
def joinFamilies? (a b : ElementType) : Option ElementType :=
  (joinKnown? a b).or (joinKnown? b a)

/-- A family joined with what a leader has in common with those before it. -/
def follow (leader : ElementType) (joined : Option ElementType) (f : ElementType) :
    Except JoinFault (Option ElementType) :=
  match joinKnown? leader f, joined with
  | none, _ => .error (.apart f leader)
  | some t, none => .ok (some t)
  | some t, some u => .ok (joinFamilies? u t)

/-- The family of the values of several families. -/
def commonFamily (families : List ElementType) : Except JoinFault ElementType :=
  match rounds families.length families with
  | none => .ok double
  | some r => do
    let followers := match r.joined with
      | some _ => r.others.filterMap id
      | none => (r.second :: r.others).filterMap id
    return (← followers.foldlM (follow r.leader) r.joined).getD r.leader

/-- The unit of two types of times; whole numbers have none. -/
def joinUnits (areDurations : Bool) (u : TimeUnit) (t : ElementType) :
    Except JoinFault TimeUnit :=
  (u.common areDurations t.timeUnit areDurations).mapError .units

/-- The type of a family that holds the values of all types of a list. -/
def inFamily (types : List ElementType) : ElementType → Except JoinFault ElementType
  | text _ => .ok (text ((types.map textWidth).foldl max 0))
  | instant _ => (types.foldlM (joinUnits false) .generic).map instant
  | duration _ => (types.foldlM (joinUnits true) .generic).map duration
  | t => .ok t

/-- The type that holds the values of all types of a list. -/
def commonOf (types : List ElementType) : Except JoinFault ElementType :=
  match types with
  | [] => .ok double
  | t :: rest =>
    if rest.all (· == t) then .ok t
    else do inFamily types (← commonFamily (types.map family))

/-- The type that holds the values of two types. -/
def common? (a b : ElementType) : Option ElementType := (commonOf [a, b]).toOption

/-- The type of the elements of a list that has values of these types; those that have no common
type are values of any kind. -/
def ofParts : List ElementType → ElementType
  | [] => double
  | t :: rest => rest.foldl (fun joined u => (common? u joined).getD object) t

/-- Types that are all the same are their common type. -/
theorem commonOf_replicate (t : ElementType) (n : Nat) :
  commonOf (List.replicate (n + 1) t) = .ok t
  := by
  simp [commonOf, List.replicate_succ]

end ElementType

end GridUnion
