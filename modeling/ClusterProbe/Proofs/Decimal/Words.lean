import ClusterProbe.Proofs.Decimal.Faults

/-!
# Counts in machine words

A count is read by value, as a natural number that is looked at for its size digit by digit.  A
machine has words of 64 bits, where a product or a sum that does not fit loses its upper part.  It
looks out for that in long texts only, and still it reads every text as it is read by value: no text
makes a word lose anything.
-/

namespace ClusterProbe.Decimal

/-- One more digit behind a word, whatever is lost of it. -/
def grow (w : UInt64) (d : Nat) : UInt64 := w * 10 + UInt64.ofNat d

/-- One more digit behind a word, unless the product or the sum does not fit. -/
def grow? (w : UInt64) (d : Nat) : Option UInt64 :=
  if w.toNat * 10 < UInt64.size ∧ (w * 10).toNat + d < UInt64.size then some (grow w d) else none

/-- Reads digits after a word, each by the step that is given. -/
def accumulateWords (step : UInt64 → Nat → Option UInt64) (w : UInt64) :
    List Char → Except Fault UInt64
  | [] => .ok w
  | c :: cs =>
    -- A character that is no digit is told even where no further digit would fit.
    match digit? c with
    | none => .error .invalidDigit
    | some d =>
      match step w d with
      | none => .error .tooLarge
      | some w => accumulateWords step w cs

/-- Reads a count in words.  It does not look out for losses in up to sixteen digits. -/
def readWords (text : String) : Except Fault UInt64 := do
  let digits ← unsigned text.toList
  let step := if digits.length ≤ 16 then fun w d => some (grow w d) else grow?
  accumulateWords step 0 digits

/-! ## Steps -/

/-- Where the number with the digit fits, the word loses nothing. -/
theorem toNat_grow {w : UInt64} {d : Nat} (h : w.toNat * 10 + d < UInt64.size) :
    (grow w d).toNat = w.toNat * 10 + d := by
  have hproduct : (w * 10).toNat = w.toNat * 10 := by
    rw [UInt64.toNat_mul]
    exact Nat.mod_eq_of_lt (Nat.lt_of_le_of_lt (Nat.le_add_right _ _) h)
  have hdigit : (UInt64.ofNat d).toNat = d :=
    UInt64.toNat_ofNat_of_lt' (Nat.lt_of_le_of_lt (Nat.le_add_left _ _) h)
  rw [grow, UInt64.toNat_add, hproduct, hdigit]
  exact Nat.mod_eq_of_lt h

/-- A loss is told exactly where the number with the digit does not fit. -/
theorem grow?_eq (w : UInt64) (d : Nat) :
    grow? w d = if w.toNat * 10 + d < UInt64.size then some (grow w d) else none := by
  have hproduct : (w * 10).toNat = w.toNat * 10 % UInt64.size := UInt64.toNat_mul w 10
  have hfits : w.toNat * 10 < UInt64.size ∧ (w * 10).toNat + d < UInt64.size ↔
      w.toNat * 10 + d < UInt64.size := by
    constructor
    · rintro ⟨hw, hsum⟩
      rwa [hproduct, Nat.mod_eq_of_lt hw] at hsum
    · intro h
      have hw : w.toNat * 10 < UInt64.size := Nat.lt_of_le_of_lt (Nat.le_add_right _ _) h
      exact ⟨hw, by rwa [hproduct, Nat.mod_eq_of_lt hw]⟩
  simp only [grow?, hfits]

/-! ## Runs -/

/-- Words that look out for losses read what numbers do. -/
theorem accumulateWords_grow? (w : UInt64) (cs : List Char) :
    accumulateWords grow? w cs = (accumulate w.toNat cs).map UInt64.ofNat := by
  induction cs generalizing w with
  | nil => simp [accumulateWords, accumulate, Except.map]
  | cons c cs ih =>
    rw [accumulateWords, accumulate]
    cases digit? c with
    | none => rfl
    | some d =>
      simp only [grow?_eq]
      by_cases hfits : w.toNat * 10 + d < UInt64.size
      · simp only [if_pos hfits, ih, toNat_grow hfits]
      · simp only [if_neg hfits]
        rfl

/-- In numbers of at most nineteen digits nothing is lost, so there is nothing to look out for. -/
theorem accumulateWords_grow {w : UInt64} {cs : List Char} {k : Nat} (hw : w.toNat < 10 ^ k)
    (hk : k + cs.length ≤ 19) :
    accumulateWords (fun w d => some (grow w d)) w cs = accumulateWords grow? w cs := by
  -- After `k` digits the word is below `10 ^ k`.
  induction cs generalizing w k with
  | nil => rfl
  | cons c cs ih =>
    rw [accumulateWords, accumulateWords]
    cases hc : digit? c with
    | none => rfl
    | some d =>
      have hd : d < 10 := (digit?_eq_some_iff.1 hc).1
      rw [List.length_cons] at hk
      have hnext : w.toNat * 10 + d < 10 ^ (k + 1) := by
        rw [Nat.pow_succ]
        omega
      have hfits : w.toNat * 10 + d < UInt64.size := calc
        w.toNat * 10 + d < 10 ^ (k + 1) := hnext
        _ ≤ 10 ^ 19 := Nat.pow_le_pow_right (by decide) (by omega)
        _ < UInt64.size := by decide
      simp only [grow?_eq, if_pos hfits]
      exact ih (k := k + 1) (by rwa [toNat_grow hfits]) (by omega)

/-- Words read what numbers do, as no text makes them lose anything. -/
theorem readWords_eq_read (text : String) : readWords text = read text := by
  rw [readWords, read]
  cases unsigned text.toList with
  | error why => rfl
  | ok digits =>
    have hguarded : accumulateWords
        (if digits.length ≤ 16 then fun w d => some (grow w d) else grow?) 0 digits =
          accumulateWords grow? 0 digits := by
      split
      · next hshort => exact accumulateWords_grow (k := 0) (by decide) (by omega)
      · rfl
    simp only [bind, Except.bind]
    rw [hguarded, accumulateWords_grow?]
    rfl

end ClusterProbe.Decimal
