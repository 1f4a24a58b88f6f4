import ClusterProbe.Proofs.Decimal
import Mathlib.Algebra.GroupWithZero.Nat

/-!
# Texts that give no count

Why a text is not read as a count.  Digits are read from the left, and of two faults the first one
is told: a character that is no digit behind a number that is too large already does not matter, nor
does what would be too large behind a character that is no digit.
-/

namespace ClusterProbe.Decimal

/-- What stands behind the optional sign of a text. -/
def magnitude (text : String) : List Char :=
  if text.toList.head? = some '+' then text.toList.tail else text.toList

/-- Some digits that the text begins with, behind an optional sign, are a number beyond 64 bits. -/
def Exceeds (text : String) : Prop :=
  ∃ ds : List Nat, (∀ d ∈ ds, d < 10) ∧ ds.map symbol <+: magnitude text ∧
    2 ^ 64 ≤ Radix.value 10 ds

/-- The text is a sign alone, or it has a character that is no digit, and the digits in front of
that are a number within 64 bits. -/
def Malformed (text : String) : Prop :=
  text = "+" ∨ ∃ (ds : List Nat) (c : Char), (∀ d ∈ ds, d < 10) ∧ c.isDigit = false ∧
    ds.map symbol ++ [c] <+: magnitude text ∧ Radix.value 10 ds < 2 ^ 64

theorem Fault.message_eq_iff {why why' : Fault} : why.message = why'.message ↔ why = why' := by
  cases why <;> cases why' <;> simp [message]

/-! ## Characters -/

theorem digit?_eq_none_iff {c : Char} : digit? c = none ↔ c.isDigit = false := by
  have hrange : c.isDigit = true ↔ '0' ≤ c ∧ c ≤ '9' := by simp [Char.isDigit, Char.le_def]
  rw [digit?, Bool.eq_false_iff, ne_eq, hrange]
  split
  · next h => exact iff_of_false (Option.some_ne_none _) (not_not_intro h)
  · next h => exact iff_of_true rfl h

/-- A text begins with some digits, and behind them it ends or goes on with something else. -/
theorem exists_digits_append (cs : List Char) : ∃ (ds : List Nat) (rest : List Char),
    (∀ d ∈ ds, d < 10) ∧ cs = ds.map symbol ++ rest ∧ ∀ c ∈ rest.head?, c.isDigit = false := by
  induction cs with
  | nil => exact ⟨[], [], by simp⟩
  | cons c cs ih =>
    cases hc : digit? c with
    | none => exact ⟨[], c :: cs, by simp, rfl, by simpa using digit?_eq_none_iff.1 hc⟩
    | some d =>
      obtain ⟨hd, rfl⟩ := digit?_eq_some_iff.1 hc
      obtain ⟨ds, rest, hds, rfl, hrest⟩ := ih
      exact ⟨d :: ds, rest, List.forall_mem_cons.2 ⟨hd, hds⟩, rfl, hrest⟩

/-! ## Accumulation -/

theorem accumulate_digits {n : Nat} {ds : List Nat} (hds : ∀ d ∈ ds, d < 10)
    (hfits : ds.foldl (fun n d => n * 10 + d) n < UInt64.size) (rest : List Char) :
    accumulate n (ds.map symbol ++ rest) =
      accumulate (ds.foldl (fun n d => n * 10 + d) n) rest := by
  induction ds generalizing n with
  | nil => rfl
  | cons d ds ih =>
    obtain ⟨hd, hds⟩ := List.forall_mem_cons.1 hds
    -- The number only grows, so it has fitted at every digit.
    have hnext : n * 10 + d < UInt64.size := Nat.lt_of_le_of_lt (le_foldl _ ds) hfits
    rw [List.map_cons, List.cons_append, accumulate, digit?_symbol hd]
    simp only [if_pos hnext]
    exact ih hds hfits

/-- Nothing behind a number that is too large matters. -/
theorem accumulate_digits_of_large {n : Nat} {ds : List Nat} (hn : n < UInt64.size)
    (hds : ∀ d ∈ ds, d < 10) (hlarge : UInt64.size ≤ ds.foldl (fun n d => n * 10 + d) n)
    (rest : List Char) : accumulate n (ds.map symbol ++ rest) = .error .tooLarge := by
  induction ds generalizing n with
  | nil => exact absurd hn (Nat.not_lt.2 hlarge)
  | cons d ds ih =>
    obtain ⟨hd, hds⟩ := List.forall_mem_cons.1 hds
    rw [List.map_cons, List.cons_append, accumulate, digit?_symbol hd]
    by_cases hnext : n * 10 + d < UInt64.size
    · simp only [if_pos hnext]
      exact ih hnext hds hlarge
    · simp only [if_neg hnext]

theorem accumulate_of_not_isDigit {c : Char} (h : c.isDigit = false) (n : Nat) (cs : List Char) :
    accumulate n (c :: cs) = .error .invalidDigit := by
  rw [accumulate, digit?_eq_none_iff.2 h]

/-- A number is told to be too large exactly when some digits in front are, however many. -/
theorem accumulate_eq_tooLarge_iff {cs : List Char} :
    accumulate 0 cs = .error .tooLarge ↔ ∃ ds : List Nat, (∀ d ∈ ds, d < 10) ∧
      ds.map symbol <+: cs ∧ 2 ^ 64 ≤ Radix.value 10 ds := by
  constructor
  · intro h
    obtain ⟨ds, rest, hds, rfl, hrest⟩ := exists_digits_append cs
    refine ⟨ds, hds, List.prefix_append _ _, Nat.not_lt.1 fun hfits => ?_⟩
    rw [accumulate_digits hds hfits] at h
    -- If all the digits in front fit, reading ends well or at a character that is no digit.
    cases rest with
    | nil => cases h
    | cons c rest =>
      rw [accumulate_of_not_isDigit (hrest c rfl)] at h
      cases h
  · rintro ⟨ds, hds, ⟨rest, rfl⟩, hlarge⟩
    exact accumulate_digits_of_large (by decide) hds hlarge rest

theorem accumulate_eq_invalidDigit_iff {cs : List Char} :
    accumulate 0 cs = .error .invalidDigit ↔ ∃ (ds : List Nat) (c : Char), (∀ d ∈ ds, d < 10) ∧
      c.isDigit = false ∧ ds.map symbol ++ [c] <+: cs ∧ Radix.value 10 ds < 2 ^ 64 := by
  constructor
  · intro h
    obtain ⟨ds, rest, hds, rfl, hrest⟩ := exists_digits_append cs
    have hfits : Radix.value 10 ds < 2 ^ 64 := Nat.not_le.1 fun hlarge => by
      rw [accumulate_digits_of_large (by decide) hds hlarge] at h
      cases h
    rw [accumulate_digits hds hfits] at h
    cases rest with
    | nil => cases h
    | cons c rest => exact ⟨ds, c, hds, hrest c rfl, ⟨rest, by simp⟩, hfits⟩
  · rintro ⟨ds, c, hds, hc, ⟨rest, rfl⟩, hfits⟩
    rw [List.append_assoc, accumulate_digits hds hfits]
    exact accumulate_of_not_isDigit hc _ _

theorem accumulate_ne_empty (n : Nat) (cs : List Char) : accumulate n cs ≠ .error .empty := by
  induction cs generalizing n with
  | nil => simp [accumulate]
  | cons c cs ih =>
    rw [accumulate]
    split
    · simp
    · split
      · exact ih _
      · simp

/-! ## Reading -/

theorem unsigned_eq_magnitude {text : String} (hempty : text ≠ "") (hsign : text ≠ "+") :
    unsigned text.toList = .ok (magnitude text) := by
  rw [unsigned_eq_ok_iff, magnitude]
  split
  · next h =>
    obtain ⟨cs, hcs⟩ := List.head?_eq_some_iff.1 h
    rw [hcs, List.tail_cons]
    refine ⟨?_, .inl rfl⟩
    rintro rfl
    exact hsign (String.toList_inj.1 hcs)
  · next h => exact ⟨fun hnil => hempty (String.toList_eq_nil_iff.1 hnil), .inr ⟨rfl, h⟩⟩

/-- A text without a digit is refused as a whole, and any other one where accumulation stops. -/
theorem read_eq_error_iff {text : String} {why : Fault} : read text = .error why ↔
    text = "" ∧ why = .empty ∨ text = "+" ∧ why = .invalidDigit ∨
      accumulate 0 (magnitude text) = .error why := by
  -- In the two texts without a digit there is nothing to accumulate, which is no fault.
  have hempty : read "" = .error .empty ∧ magnitude "" = [] := ⟨rfl, rfl⟩
  have hsign : read "+" = .error .invalidDigit ∧ magnitude "+" = [] := ⟨rfl, rfl⟩
  by_cases h : text = ""
  · subst h
    simpa [hempty, accumulate] using eq_comm
  by_cases h' : text = "+"
  · subst h'
    simpa [hsign, accumulate] using eq_comm
  simp only [h, h', false_and, false_or, read, unsigned_eq_magnitude h h', bind, Except.bind]
  cases accumulate 0 (magnitude text) with
  | error why => simp
  | ok n => simp [pure, Except.pure]

theorem read_eq_empty_iff {text : String} : read text = .error .empty ↔ text = "" := by
  simp [read_eq_error_iff, accumulate_ne_empty]

theorem read_eq_tooLarge_iff {text : String} : read text = .error .tooLarge ↔ Exceeds text := by
  simp [read_eq_error_iff, accumulate_eq_tooLarge_iff, Exceeds]

theorem read_eq_invalidDigit_iff {text : String} :
    read text = .error .invalidDigit ↔ Malformed text := by
  simp [read_eq_error_iff, accumulate_eq_invalidDigit_iff, Malformed]

/-- There is no text that is neither a count nor refused for one of the three reasons. -/
theorem gives_or_refused (text : String) : (∃ n : UInt64, Gives text n.toNat) ∨ text = "" ∨
    Exceeds text ∨ Malformed text := by
  cases h : read text with
  | ok n => exact .inl ⟨n, read_eq_ok_iff_gives.1 h⟩
  | error why =>
    cases why with
    | empty => exact .inr (.inl (read_eq_empty_iff.1 h))
    | tooLarge => exact .inr (.inr (.inl (read_eq_tooLarge_iff.1 h)))
    | invalidDigit => exact .inr (.inr (.inr (read_eq_invalidDigit_iff.1 h)))

end ClusterProbe.Decimal
