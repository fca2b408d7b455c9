import GridUnion.Axis.Times
import GridUnion.Proofs.Axis.Integers
import GridUnion.Proofs.Block.Fill

/-!
# Times on axes

Times are merged as integers: as the nanoseconds that they count, or would count.  Seconds,
milliseconds, microseconds and nanoseconds become nanoseconds exactly, and nanoseconds that are
merged become times again.
-/

namespace GridUnion

/-- The block of one dimension with times of the given counts of a unit. -/
def Block.ofCounts (u : TimeUnit) (ns : List Int) : Block :=
  ofList (.instant u) (ns.map fun n => .time (some n))

/-! ### Units of grids -/

namespace TimeUnit

/-- The units in which times of grids are kept. -/
def ofGrids : List TimeUnit := [second, milli, micro, nano]

/-- The number of nanoseconds in a unit. -/
def nanos (u : TimeUnit) : Nat := u.length / nano.length

variable {u v : TimeUnit}

/-- A unit in which times are kept is a whole number of nanoseconds. -/
theorem length_eq_nanos_mul (hu : u ∈ ofGrids) :
  u.length = u.nanos * nano.length
  := by
  simp only [ofGrids, List.mem_cons, List.not_mem_nil, or_false] at hu
  obtain rfl | rfl | rfl | rfl := hu <;> rfl

theorem nanos_pos (hu : u ∈ ofGrids) :
  (0 : Int) < u.nanos
  := by
  have hall : ∀ u ∈ ofGrids, 0 < u.nanos := by decide
  exact_mod_cast hall u hu

/-- Times of two units are the same instant exactly if they count equally many nanoseconds. -/
theorem mul_length_eq_iff (hu : u ∈ ofGrids) (hv : v ∈ ofGrids) (m n : Int) :
  m * u.length = n * v.length ↔ m * u.nanos = n * v.nanos
  := by
  have hpos : (nano.length : Int) ≠ 0 := by decide
  rw [length_eq_nanos_mul hu, length_eq_nanos_mul hv]
  push_cast
  rw [← mul_assoc, ← mul_assoc]
  exact mul_left_inj' hpos

end TimeUnit

/-! ### Counts in words -/

/-- A count of nanoseconds that a word can keep; the least word stands for no time. -/
def Count.IsNanoseconds (n : Int) : Prop := -2 ^ 63 < n ∧ n < 2 ^ 63

instance (n : Int) : Decidable (Count.IsNanoseconds n) := inferInstanceAs (Decidable (_ ∧ _))

theorem Count.wrap_eq_self {n : Int} (h : IsNanoseconds n) :
  wrap n = n
  := by
  obtain ⟨hlow, hhigh⟩ := h
  apply (ElementType.wrap_signed_eq_self_iff .w64 n).mpr
  exact ⟨hlow.le, hhigh⟩

theorem Count.ofWord_eq_some {n : Int} (h : IsNanoseconds n) :
  ofWord n = some n
  := by
  rw [ofWord, wrap_eq_self h, if_neg]
  exact h.1.ne'

/-- A count that is kept in a word is one of nanoseconds. -/
theorem Count.isNanoseconds_of_ofWord {n m : Int} (h : ofWord n = some m) :
  IsNanoseconds m
  := by
  unfold ofWord at h
  split at h
  · cases h
  · next hpresent =>
    obtain rfl := Option.some.inj h
    have hlow : -(2 ^ 64 / 2) ≤ wrap n := Int.le_bmod (by decide)
    have hhigh : wrap n < (2 ^ 64 + 1) / 2 := Int.bmod_lt (by decide)
    unfold absent at hpresent
    constructor <;> omega

theorem Count.ofWord_wrap (n : Int) :
  ofWord (wrap n) = ofWord n
  := by
  have hwrap : wrap (wrap n) = wrap n := Int.bmod_bmod
  rw [ofWord, ofWord, hwrap]

/-- Times in another unit than nanoseconds become the words of the nanoseconds that they count. -/
theorem Count.convertInstant_of_ne_nano {u : TimeUnit} (hu : u ∈ TimeUnit.ofGrids) (hnano : u ≠ .nano)
    (n : Int) :
  convertInstant u .nano (some n) = ofWord (n * u.nanos)
  := by
  have hplain : u ≠ .generic ∧ u.isCalendar = false := by
    simp only [TimeUnit.ofGrids, List.mem_cons, List.not_mem_nil, or_false] at hu
    obtain rfl | rfl | rfl | rfl := hu <;> decide
  have hrescale : rescale u.length TimeUnit.nano.length n = wrap (n * u.nanos) := by
    have hgcd : Nat.gcd u.length TimeUnit.nano.length = TimeUnit.nano.length := by
      rw [TimeUnit.length_eq_nanos_mul hu, Nat.gcd_mul_left_left]
    rw [rescale, hgcd, Nat.div_self (by decide), Nat.cast_one, Int.fdiv_one]
    rfl
  have hcalendar : TimeUnit.isCalendar .nano = false := rfl
  have hgeneric : ¬ (u = .generic ∨ TimeUnit.nano = .generic ∨ u = .nano) := by
    simp [hplain, hnano]
  rw [convertInstant, if_neg hgeneric, hplain.2, hcalendar]
  simp only [hrescale, ofWord_wrap]

/-- Times become nanoseconds exactly, as long as a word can keep them. -/
theorem Count.convertInstant_nano {u : TimeUnit} (hu : u ∈ TimeUnit.ofGrids) {n : Int}
    (h : IsNanoseconds (n * u.nanos)) :
  convertInstant u .nano (some n) = some (n * u.nanos)
  := by
  by_cases hnano : u = .nano
  · subst hnano
    simp [convertInstant, TimeUnit.nanos, TimeUnit.length]
  · rw [convertInstant_of_ne_nano hu hnano, ofWord_eq_some h]

theorem Count.toWord_ofWord (n : Int) :
  toWord (ofWord n) = wrap n
  := by
  unfold ofWord
  split
  · next h => simp [toWord, h]
  · rfl

namespace Times

/-- A time in a unit as one in nanoseconds. -/
def nanosecondsOf (u : TimeUnit) : Element → Element
  | .time c => .time (Count.convertInstant u .nano c)
  | e => e

/-- Instants in nanoseconds are kept as they are. -/
theorem kept_nanoseconds {b : Block} (htype : b.type = .nanoseconds)
    (hdata : ∀ e ∈ b.data, ∃ c, e = .time c) :
  b.kept = .ok b
  := by
  obtain ⟨type, shape, data, hsize⟩ := b
  obtain rfl := htype
  apply Block.mapM_eq_ok_iff_data.mpr
  refine ⟨rfl, rfl, ?_⟩
  have hkept : ∀ e ∈ data, Scalar.kept ⟨.nanoseconds, e⟩ = .ok (id e) := by
    intro e he
    obtain ⟨c, rfl⟩ := hdata e he
    cases c with
    | none => rfl
    | some n => rfl
  have hmap := mapM_eq_ok_map hkept
  rwa [List.map_id] at hmap

/-- Words become instants in nanoseconds one by one. -/
theorem ofNanoseconds_eq_map {b : Block} (htype : b.type = .int64) :
  ofNanoseconds b = .ok (b.map .nanoseconds countOf)
  := by
  have hwords : b.convert .int64 = .ok b := htype ▸ Block.convert_self b
  rw [ofNanoseconds, hwords]
  rfl

/-- Integers that become instants become the same integers again. -/
theorem exists_ofNanoseconds {values : List Int}
    (h : ∀ n ∈ values, ElementType.int64.wrap n = n) :
  ∃ b, ofNanoseconds (Block.ofInts .int64 values) = .ok b ∧ b.kept = .ok b ∧ b.type = .nanoseconds
    ∧ b.shape = [values.length] ∧ toNanoseconds b = .ok (Block.ofInts .int64 values)
  := by
  set b := (Block.ofInts .int64 values).map .nanoseconds countOf with hb
  have hdata : b.data = values.map fun n => .time (Count.ofWord n) := by
    simp [hb, Block.map, Block.ofInts, Block.ofList, countOf]
  have hshape : b.shape = [values.length] := by
    simp [hb, Block.map, Block.ofInts, Block.ofList]
  have hinstants : b.convert .nanoseconds = .ok b := Block.convert_self b
  refine ⟨b, ofNanoseconds_eq_map rfl, ?_, rfl, hshape, ?_⟩
  · apply kept_nanoseconds rfl
    intro e he
    rw [hdata] at he
    obtain ⟨n, -, rfl⟩ := List.mem_map.mp he
    exact ⟨_, rfl⟩
  · have hwordOf : values.map (wordOf ∘ fun n => .time (Count.ofWord n)) = values.map .int := by
      apply List.map_congr_left
      intro n hn
      exact congrArg Element.int ((Count.toWord_ofWord n).trans (h n hn))
    simp [toNanoseconds, hinstants, Block.map, hdata, hwordOf, hshape, Block.ofInts, Block.ofList]

section Counts

variable {u : TimeUnit} {ns : List Int}

theorem convert_time (hu : u ∈ TimeUnit.ofGrids) (c : Count) :
  Scalar.convert .nanoseconds ⟨.instant u, .time c⟩ = .ok (.time (Count.convertInstant u .nano c))
  := by
  have hcast : Scalar.castTime (.instant u) .nanoseconds c
      = .ok (.time (Count.convertInstant u .nano c)) := by
    have hunits : Scalar.checkUnits u .nano = .ok () := by
      simp only [TimeUnit.ofGrids, List.mem_cons, List.not_mem_nil, or_false] at hu
      obtain rfl | rfl | rfl | rfl := hu <;> rfl
    rw [Scalar.castTime, hunits]
    rfl
  by_cases hnano : u = .nano
  · subst hnano
    cases c <;> simp [Scalar.convert, Count.convertInstant]
  · have htype : ¬ (ElementType.instant u = .nanoseconds) := by
      simpa using hnano
    simp only [Scalar.convert, Scalar.castTyped, htype, if_false, hcast]
    rfl

/-- Times in a unit of grids are merged as the words of their instants. -/
theorem toNanoseconds_eq_map (hu : u ∈ TimeUnit.ofGrids) {b : Block} (htype : b.type = .instant u)
    (hdata : ∀ e ∈ b.data, ∃ c, e = .time c) :
  toNanoseconds b = .ok ((b.map .nanoseconds (nanosecondsOf u)).map .int64 wordOf)
  := by
  have hconvert : b.convert .nanoseconds = .ok (b.map .nanoseconds (nanosecondsOf u)) := by
    apply Block.mapM_eq_ok_iff_data.mpr
    refine ⟨rfl, rfl, ?_⟩
    apply mapM_eq_ok_map
    intro e he
    obtain ⟨c, rfl⟩ := hdata e he
    rw [htype, convert_time hu]
    rfl
  rw [toNanoseconds, hconvert]
  rfl

/-- Times in a unit of grids are merged as the nanoseconds they count. -/
theorem toNanoseconds_ofCounts (hu : u ∈ TimeUnit.ofGrids)
    (h : ∀ n ∈ ns, Count.IsNanoseconds (n * u.nanos)) :
  toNanoseconds (Block.ofCounts u ns) = .ok (Block.ofInts .int64 (ns.map (· * u.nanos)))
  := by
  have hdata : ∀ e ∈ (Block.ofCounts u ns).data, ∃ c, e = .time c := by
    intro e he
    obtain ⟨n, -, rfl⟩ := List.mem_map.mp he
    exact ⟨some n, rfl⟩
  have hwords : ns.map (wordOf ∘ nanosecondsOf u ∘ fun n => .time (some n))
      = ns.map fun n => .int (n * u.nanos) := by
    apply List.map_congr_left
    intro n hn
    simp [nanosecondsOf, wordOf, Count.convertInstant_nano hu (h n hn), Count.toWord]
  rw [toNanoseconds_eq_map hu rfl hdata]
  simp [Block.map, Block.ofCounts, Block.ofInts, Block.ofList, hwords]

/-- Nanoseconds that were merged become times again. -/
theorem ofNanoseconds_ofInts (h : ∀ n ∈ ns, Count.IsNanoseconds n) :
  ofNanoseconds (Block.ofInts .int64 ns) = .ok (Block.ofCounts .nano ns)
  := by
  have hcounts : (Block.ofInts .int64 ns).map .nanoseconds countOf = Block.ofCounts .nano ns := by
    have hdata : ns.map (countOf ∘ Element.int) = ns.map fun n => .time (some n) := by
      apply List.map_congr_left
      intro n hn
      exact congrArg Element.time (Count.ofWord_eq_some (h n hn))
    simp [Block.map, Block.ofInts, Block.ofCounts, Block.ofList, hdata]
  rw [ofNanoseconds_eq_map rfl, hcounts]

theorem kept_ofCounts (ns : List Int) :
  (Block.ofCounts .nano ns).kept = .ok (Block.ofCounts .nano ns)
  := by
  apply kept_nanoseconds rfl
  intro e he
  obtain ⟨n, -, rfl⟩ := List.mem_map.mp he
  exact ⟨some n, rfl⟩

end Counts

end Times

/-! ### Timelines -/

/-- Times in ascending order that are counted in one unit, all within the nanoseconds that a word can
keep. -/
structure Timeline where
  unit : TimeUnit
  counts : List Int
  unit_mem : unit ∈ TimeUnit.ofGrids
  ascending : counts.Pairwise (· < ·)
  isNanoseconds : ∀ n ∈ counts, Count.IsNanoseconds (n * unit.nanos)

namespace Timeline

/-- The times as a block. -/
def block (t : Timeline) : Block := Block.ofCounts t.unit t.counts

/-- The times in nanoseconds. -/
def nanoseconds (t : Timeline) : List Int := t.counts.map (· * t.unit.nanos)

/-- A timeline has an instant, given in nanoseconds, if one of its counts is this instant in its own
unit. -/
def Has (t : Timeline) (n : Int) : Prop :=
  ∃ k ∈ t.counts, k * t.unit.length = n * TimeUnit.nano.length

/-- Rows of two timelines hold the same instant. -/
def SameInstant (t u : Timeline) (i j : Nat) : Prop :=
  ∃ m n, t.counts[i]? = some m ∧ u.counts[j]? = some n ∧ m * t.unit.length = n * u.unit.length

theorem has_iff {t : Timeline} {n : Int} :
  t.Has n ↔ n ∈ t.nanoseconds
  := by
  have hnano : TimeUnit.nano.nanos = 1 := rfl
  have hmem : TimeUnit.nano ∈ TimeUnit.ofGrids := by decide
  simp only [Has, nanoseconds, List.mem_map, TimeUnit.mul_length_eq_iff t.unit_mem hmem, hnano,
    Nat.cast_one, mul_one]

theorem sameInstant_iff {t u : Timeline} {i j : Nat} :
  t.SameInstant u i j ↔ ∃ n, t.nanoseconds[i]? = some n ∧ u.nanoseconds[j]? = some n
  := by
  simp only [SameInstant, nanoseconds, List.getElem?_map, Option.map_eq_some_iff,
    TimeUnit.mul_length_eq_iff t.unit_mem u.unit_mem]
  constructor
  · rintro ⟨m, n, hm, hn, heq⟩
    exact ⟨_, ⟨m, hm, heq⟩, n, hn, rfl⟩
  · rintro ⟨_, ⟨m, hm, heq⟩, n, hn, rfl⟩
    exact ⟨m, n, hm, hn, heq⟩

theorem pairwise_nanoseconds (t : Timeline) :
  t.nanoseconds.Pairwise (· < ·)
  := by
  rw [nanoseconds, List.pairwise_map]
  apply t.ascending.imp
  intro m n hlt
  exact Int.mul_lt_mul_of_pos_right hlt (TimeUnit.nanos_pos t.unit_mem)

theorem pairwise_of_mem_map (times : List Timeline) :
  ∀ xs ∈ times.map nanoseconds, xs.Pairwise (· < ·)
  := by
  rw [List.forall_mem_map]
  intro t _
  exact t.pairwise_nanoseconds

theorem isNanoseconds_nanoseconds (t : Timeline) :
  ∀ n ∈ t.nanoseconds, Count.IsNanoseconds n
  := by
  rw [nanoseconds, List.forall_mem_map]
  exact t.isNanoseconds

/-- The times of a timeline are merged as its nanoseconds. -/
theorem toNanoseconds_block (t : Timeline) :
  Times.toNanoseconds t.block = .ok (Block.ofInts .int64 t.nanoseconds)
  := Times.toNanoseconds_ofCounts t.unit_mem t.isNanoseconds

end Timeline

end GridUnion
