/-!
# Sets of characters

Sets of characters that are given by the ranges of code points that make them up, in ascending
order.
-/
namespace TransportConverter

/-- Whether a character is in one of the ranges. -/
def inRanges (ranges : List (Nat × Nat)) (c : Char) : Bool :=
  ranges.any fun r => r.1 ≤ c.toNat && c.toNat ≤ r.2

end TransportConverter
