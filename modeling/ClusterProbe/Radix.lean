/-!
# Positional notation

Natural numbers as lists of digits, most significant digit first, in any base.  `value` reads a
list and `digits` writes the one list without a leading zero; zero is written as no digit at all.
-/

namespace ClusterProbe.Radix

/-- The number that a list of digits stands for in base `b`. -/
def value (b : Nat) (ds : List Nat) : Nat :=
  ds.foldl (fun n d => n * b + d) 0

/-- The digits of `n` in base `b`, without leading zeros; none when the base is below two. -/
def digits (b n : Nat) : List Nat :=
  if _h : n = 0 ∨ b < 2 then [] else digits b (n / b) ++ [n % b]
termination_by n
decreasing_by
  exact Nat.div_lt_self (by omega) (by omega)

@[simp] theorem value_nil (b : Nat) : value b [] = 0 := rfl

@[simp] theorem value_concat (b : Nat) (ds : List Nat) (d : Nat) :
    value b (ds ++ [d]) = value b ds * b + d := by
  simp [value]

@[simp] theorem digits_zero (b : Nat) : digits b 0 = [] := by
  unfold digits; simp

theorem digits_of_pos {b n : Nat} (hb : 2 ≤ b) (hn : 0 < n) :
    digits b n = digits b (n / b) ++ [n % b] := by
  rw [digits, dif_neg (by omega)]

/-- Writing a number and reading it back gives the number. -/
theorem value_digits {b : Nat} (hb : 2 ≤ b) (n : Nat) : value b (digits b n) = n := by
  induction n using Nat.strongRecOn with
  | ind n ih =>
    rcases Nat.eq_zero_or_pos n with rfl | hn
    · simp
    · rw [digits_of_pos hb hn, value_concat, ih _ (Nat.div_lt_self hn (by omega))]
      exact Nat.div_add_mod' n b

theorem lt_of_mem_digits {b : Nat} (hb : 2 ≤ b) {n d : Nat} (h : d ∈ digits b n) : d < b := by
  induction n using Nat.strongRecOn with
  | ind n ih =>
    rcases Nat.eq_zero_or_pos n with rfl | hn
    · simp at h
    · rw [digits_of_pos hb hn] at h
      rcases List.mem_append.1 h with h | h
      · exact ih _ (Nat.div_lt_self hn (by omega)) h
      · rw [List.mem_singleton.1 h]
        exact Nat.mod_lt _ (by omega)

end ClusterProbe.Radix
