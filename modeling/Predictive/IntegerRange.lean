/-!
# Ranges of integers

The integers that a fixed number of bits can hold, or all integers. A computation within a
range checks each intermediate value against it.
-/

namespace Predictive

/-- The integers between two bounds; a missing bound does not limit them. -/
structure IntegerRange where
  least? : Option Int
  greatest? : Option Int
deriving DecidableEq

namespace IntegerRange

/-- All integers. -/
def unbounded : IntegerRange :=
  ⟨none, none⟩

/-- The integers from zero that fit into a number of bits. -/
def unsigned (bits : Nat) : IntegerRange :=
  ⟨some 0, some (Int.pow 2 bits - 1)⟩

/-- The integers that fit into a number of bits in two's complement. -/
def signed (bits : Nat) : IntegerRange :=
  ⟨some (-Int.pow 2 (bits - 1)), some (Int.pow 2 (bits - 1) - 1)⟩

/-- Whether the range holds an integer. -/
def contains (range : IntegerRange) (value : Int) : Bool :=
  range.least?.all (· ≤ value) && range.greatest?.all (value ≤ ·)

/-- The integer, if the range holds it. -/
def fit? (range : IntegerRange) (value : Int) : Option Int :=
  if range.contains value then some value else none

@[simp] theorem contains_unbounded (value : Int) : unbounded.contains value = true := rfl

@[simp] theorem fit?_unbounded (value : Int) : unbounded.fit? value = some value := rfl

theorem contains_signed_iff (bits : Nat) (value : Int) :
    (signed bits).contains value = true ↔
      -Int.pow 2 (bits - 1) ≤ value ∧ value ≤ Int.pow 2 (bits - 1) - 1 := by
  simp [signed, contains]

theorem contains_unsigned_iff (bits : Nat) (value : Int) :
    (unsigned bits).contains value = true ↔ 0 ≤ value ∧ value ≤ Int.pow 2 bits - 1 := by
  simp [unsigned, contains]

theorem fit?_eq_some_iff (range : IntegerRange) (value result : Int) :
    range.fit? value = some result ↔ range.contains value = true ∧ value = result := by
  simp [fit?]

end IntegerRange
end Predictive
