/-!
# Integers of 64 bits
-/

namespace TypedSeries

/-- The first integer that 64 signed bits cannot hold, `2 ^ 63`. -/
def int64Bound : Nat := Nat.pow 2 63

/-- The first number that 64 bits without a sign cannot hold, `2 ^ 64`. -/
def word64Bound : Nat := Nat.pow 2 64

/-- Whether 64 signed bits hold an integer. -/
def FitsInt64 (i : Int) : Prop := -(int64Bound : Int) ≤ i ∧ i < (int64Bound : Int)

instance (i : Int) : Decidable (FitsInt64 i) := inferInstanceAs (Decidable (_ ∧ _))

/-- The 64-bit integer of a value, if there is one. -/
def int64? (i : Int) : Option Int64 := if FitsInt64 i then some (Int64.ofInt i) else none

end TypedSeries
