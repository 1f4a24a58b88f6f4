/-!
# The size of an airdrop

The airdrop covers the fee of one signature a number of times over.
-/

namespace ClusterProbe.Airdrop

/-- So many fees, if that is below `2 ^ 64`. -/
def size? (fee multiplier : UInt64) : Option UInt64 :=
  let product := fee.toNat * multiplier.toNat
  if product < UInt64.size then some (UInt64.ofNat product) else none

/-- The size is the exact product. -/
theorem size?_eq_some_iff {fee multiplier lamports : UInt64} :
    size? fee multiplier = some lamports ↔
      fee.toNat * multiplier.toNat = lamports.toNat := by
  unfold size?
  simp only
  split
  · next h =>
    rw [Option.some.injEq, ← UInt64.toNat_inj, UInt64.toNat_ofNat', Nat.mod_eq_of_lt h]
  · next h =>
    simp only [reduceCtorEq, false_iff]
    intro he
    exact h (he ▸ lamports.toNat_lt)

/-- There is no size just if the product is too large for one. -/
theorem size?_eq_none_iff {fee multiplier : UInt64} :
    size? fee multiplier = none ↔ UInt64.size ≤ fee.toNat * multiplier.toNat := by
  unfold size?
  simp only
  split
  · next h => simp only [reduceCtorEq, false_iff, Nat.not_le, h]
  · next h => exact iff_of_true rfl (Nat.not_lt.1 h)

end ClusterProbe.Airdrop
