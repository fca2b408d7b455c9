import GridUnion.Proofs.Dataset.Times

/-!
# Instants in words

The times of a grid are merged as words of nanoseconds, and nothing asks whether a word has room for
them.  A time whose nanoseconds fit comes back as the same instant, and such times keep their order.
Any other time comes back as another instant, or as none, without a failure.
-/

namespace GridUnion

namespace Element

/-- Whether times in two units are the same instant; a missing time is the same as a missing one. -/
def SameInstant (u v : TimeUnit) : Element → Element → Prop
  | .time (some m), .time (some n) => m * u.length = n * v.length
  | .time none, .time none => True
  | _, _ => False

/-- Whether a word can keep the nanoseconds of a time; there is a word for a missing time. -/
def HasNanoseconds (u : TimeUnit) : Element → Prop
  | .time (some n) => Count.IsNanoseconds (n * u.nanos)
  | .time none => True
  | _ => False

/-- Whether of two times in one unit, or of two integers, the first one is less. -/
def Precedes : Element → Element → Prop
  | .time (some m), .time (some n) | .int m, .int n => m < n
  | _, _ => False

end Element

namespace Times

/-- Times in a unit, the words that they are merged as, and the times that these become again. -/
structure Converts (u : TimeUnit) (b words back : Block) : Prop where
  words_eq : toNanoseconds b = .ok words
  back_eq : ofNanoseconds words = .ok back
  type_words : words.type = .int64
  type_back : back.type = .nanoseconds
  shape_words : words.shape = b.shape
  shape_back : back.shape = b.shape
  /-- Exactly the times whose nanoseconds have room come back as the same instants. -/
  same_iff : List.Forall₂ (fun d e => d.SameInstant u .nano e ↔ d.HasNanoseconds u) b.data back.data
  /-- Among these, different instants have different words. -/
  word_eq_iff : ∀ p ∈ b.data.zip words.data, ∀ q ∈ b.data.zip words.data,
    p.1.HasNanoseconds u → q.1.HasNanoseconds u → (p.2 = q.2 ↔ p.1.SameInstant u u q.1)
  pairwise_precedes : (∀ e ∈ b.data, e.HasNanoseconds u) → b.data.Pairwise Element.Precedes →
    words.data.Pairwise Element.Precedes

section Words

variable {u : TimeUnit} (hu : u ∈ TimeUnit.ofGrids)

include hu

theorem wordOf_nanosecondsOf {n : Int} (h : Element.HasNanoseconds u (.time (some n))) :
  wordOf (nanosecondsOf u (.time (some n))) = .int (n * u.nanos)
  := congrArg (Element.int ∘ Count.toWord) (Count.convertInstant_nano hu h)

/-- A time comes back as the same instant exactly if a word can keep its nanoseconds. -/
theorem sameInstant_iff (c : Count) :
  Element.SameInstant u .nano (.time c) (countOf (wordOf (nanosecondsOf u (.time c))))
    ↔ Element.HasNanoseconds u (.time c)
  := by
  have hnano : TimeUnit.nano ∈ TimeUnit.ofGrids := by decide
  have hunit : ∀ m : Int, m * TimeUnit.nano.nanos = m := fun m => mul_one m
  cases c with
  | none => exact iff_of_true trivial trivial
  | some n =>
    constructor
    · intro h
      -- Whatever has come back was kept in a word.
      rcases hback : Count.ofWord (Count.toWord (Count.convertInstant u .nano (some n))) with _ | m
      · simp only [nanosecondsOf, wordOf, countOf, hback] at h
        cases h
      · simp only [nanosecondsOf, wordOf, countOf, hback] at h
        have heq : n * u.nanos = m := hunit m ▸ (TimeUnit.mul_length_eq_iff hu hnano n m).mp h
        have hword := Count.isNanoseconds_of_ofWord hback
        rwa [← heq] at hword
    · intro h
      rw [wordOf_nanosecondsOf hu h, countOf, Count.ofWord_eq_some h]
      apply (TimeUnit.mul_length_eq_iff hu hnano _ _).mpr
      rw [hunit]

/-- Times whose nanoseconds have room have the same word exactly if they are the same instant. -/
theorem word_eq_iff_sameInstant {c d : Count} (hc : Element.HasNanoseconds u (.time c))
    (hd : Element.HasNanoseconds u (.time d)) :
  wordOf (nanosecondsOf u (.time c)) = wordOf (nanosecondsOf u (.time d))
    ↔ Element.SameInstant u u (.time c) (.time d)
  := by
  have hnone : wordOf (nanosecondsOf u (.time none)) = .int Count.absent := rfl
  rcases c with _ | m <;> rcases d with _ | n
  · exact iff_of_true rfl trivial
  · rw [hnone, wordOf_nanosecondsOf hu hd, Element.int.injEq]
    exact iff_of_false hd.1.ne id
  · rw [hnone, wordOf_nanosecondsOf hu hc, Element.int.injEq]
    exact iff_of_false hc.1.ne' id
  · rw [wordOf_nanosecondsOf hu hc, wordOf_nanosecondsOf hu hd, Element.int.injEq]
    exact (TimeUnit.mul_length_eq_iff hu hu m n).symm

/-- Times whose nanoseconds have room are in the order of their words. -/
theorem word_precedes {c d : Count} (hc : Element.HasNanoseconds u (.time c))
    (hd : Element.HasNanoseconds u (.time d)) (h : Element.Precedes (.time c) (.time d)) :
  Element.Precedes (wordOf (nanosecondsOf u (.time c))) (wordOf (nanosecondsOf u (.time d)))
  := by
  rcases c with _ | m
  · cases h
  · rcases d with _ | n
    · cases h
    · rw [wordOf_nanosecondsOf hu hc, wordOf_nanosecondsOf hu hd]
      exact Int.mul_lt_mul_of_pos_right h (TimeUnit.nanos_pos hu)

/-- The times of a grid are merged as words and become times again, without a failure; exactly those
come back as the same instants whose nanoseconds have room in a word. -/
theorem exists_converts {b : Block} (htype : b.type = .instant u)
    (hdata : ∀ e ∈ b.data, ∃ c, e = .time c) :
  ∃ words back, Converts u b words back
    ∧ ∀ c : Child, c.grid.values c.axis = .ok b → c.mergeValues = .ok words
  := by
  have hwords := toNanoseconds_eq_map hu htype hdata
  set words := (b.map .nanoseconds (nanosecondsOf u)).map .int64 wordOf with hset
  have hword : words.data = b.data.map fun e => wordOf (nanosecondsOf u e) := by
    simp [hset, Block.map]
  refine ⟨words, words.map .nanoseconds countOf, ?_, ?_⟩
  · constructor
    · exact hwords
    · exact ofNanoseconds_eq_map rfl
    · rfl
    · rfl
    · rfl
    · rfl
    · have hback : (words.map .nanoseconds countOf).data
          = b.data.map fun e => countOf (wordOf (nanosecondsOf u e)) := by
        simp [hset, Block.map]
      rw [hback, List.forall₂_map_right_iff, List.forall₂_same]
      intro e he
      obtain ⟨c, rfl⟩ := hdata e he
      exact sameInstant_iff hu c
    · rw [hword, ← List.map_prod_left_eq_zip]
      simp only [List.forall_mem_map]
      intro d hd e he hroom hroom'
      obtain ⟨c, rfl⟩ := hdata d hd
      obtain ⟨c', rfl⟩ := hdata e he
      exact word_eq_iff_sameInstant hu hroom hroom'
    · intro hroom hpairwise
      rw [hword, List.pairwise_map]
      apply hpairwise.imp_of_mem
      intro d e hd he hlt
      have hroomd := hroom d hd
      have hroome := hroom e he
      obtain ⟨c, rfl⟩ := hdata d hd
      obtain ⟨c', rfl⟩ := hdata e he
      exact word_precedes hu hroomd hroome hlt
  · intro c hvalues
    have hinstant : b.type.isInstant = true := by rw [htype]; rfl
    simp [Child.mergeValues, hvalues, hinstant, hwords]

end Words

/-- The seconds of a child are merged in order as words of nanoseconds. -/
theorem exists_converts_twoSeconds :
  ∃ words back, Converts .second Dataset.twoSeconds.block words back
    ∧ (Dataset.timeChild Dataset.twoSeconds "v" [10, 20]).mergeValues = .ok words
    ∧ words.data.Pairwise Element.Precedes
  := by
  have hdata : ∀ e ∈ Dataset.twoSeconds.block.data, ∃ c, e = .time c := by
    intro e he
    obtain ⟨n, -, rfl⟩ := List.mem_map.mp he
    exact ⟨some n, rfl⟩
  obtain ⟨words, back, h, hchild⟩ := exists_converts (u := .second) (by decide) rfl hdata
  refine ⟨words, back, h, hchild _ rfl, h.pairwise_precedes ?_ ?_⟩
  · intro e he
    obtain ⟨n, hn, rfl⟩ := List.mem_map.mp he
    exact Dataset.twoSeconds.isNanoseconds n hn
  · exact List.pairwise_map.mpr Dataset.twoSeconds.ascending

/-- A second of the year 2300 comes back as one of the year 1715, and merged behind the start of 1970 it
precedes it.  Seconds that are `2 ^ 55` apart have the same word. -/
theorem not_sameInstant_year2300 :
  toNanoseconds (Block.ofCounts .second [0, 10413792000])
      = .ok (Block.ofInts .int64 [0, -8032952073709551616])
    ∧ ofNanoseconds (Block.ofInts .int64 [0, -8032952073709551616])
      = .ok (Block.ofCounts .nano [0, -8032952073709551616])
    ∧ ¬ Element.SameInstant .second .nano (.time (some 10413792000))
        (.time (some (-8032952073709551616)))
    ∧ Element.Precedes (.time (some 0)) (.time (some 10413792000))
    ∧ ¬ Element.Precedes (.int 0) (.int (-8032952073709551616))
    ∧ toNanoseconds (Block.ofCounts .second [0, 2 ^ 55]) = .ok (Block.ofInts .int64 [0, 0])
    ∧ ¬ Element.SameInstant .second .second (.time (some 0)) (.time (some (2 ^ 55)))
  := by
  refine ⟨rfl, rfl, ?_, ?_, ?_, rfl, ?_⟩
  · simp [Element.SameInstant, TimeUnit.length]
  · simp [Element.Precedes]
  · simp [Element.Precedes]
  · simp [Element.SameInstant, TimeUnit.length]

end Times

end GridUnion
