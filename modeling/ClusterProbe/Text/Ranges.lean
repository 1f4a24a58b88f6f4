/-!
# Ranges of characters

Classes of characters are given as ranges of code points, whose two ends belong to them.
-/

namespace ClusterProbe.Text

def inRanges (ranges : List (Nat × Nat)) (c : Char) : Bool :=
  ranges.any fun (low, high) => low ≤ c.toNat ∧ c.toNat ≤ high

end ClusterProbe.Text
