/-!
# Ranges of characters

Classes of characters are tables of closed ranges of code points, in ascending order.
-/

namespace ChainedDecimal

/-- Whether one of some closed ranges has a code point. -/
def inRanges (ranges : List (Nat × Nat)) (c : Nat) : Bool :=
  ranges.any fun r ↦ decide (r.1 ≤ c) && decide (c ≤ r.2)

end ChainedDecimal
