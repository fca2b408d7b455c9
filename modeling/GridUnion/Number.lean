/-!
# Numbers

Powers of numbers, and sums and products of lists of them, are those of the core language, also
where other instances of them are in scope.
-/

namespace GridUnion

@[default_instance 20000]
instance (priority := 2000) powNat : Pow Nat Nat := instPowNat

@[default_instance 20000]
instance (priority := 2000) powInt : Pow Int Nat := instPowNat

/-- The sum of no numbers. -/
instance (priority := 2000) zeroNat : Zero Nat := ⟨0⟩

/-- The product of no numbers. -/
instance (priority := 2000) oneNat : One Nat := ⟨1⟩

end GridUnion
