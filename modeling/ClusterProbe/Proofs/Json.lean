import ClusterProbe.Json.Reader
import ClusterProbe.Proofs.Base58
import ClusterProbe.Proofs.Decimal

/-!
# Counts in JSON text

A count is read just where it is written in decimal without a leading zero, and no digit, fraction
or exponent follows: every other number is negative, or a double, or out of range.
-/

namespace ClusterProbe.Json

/-- A number below ten as an octet. -/
def glyph (d : Nat) : UInt8 := octet (Decimal.symbol d)

/-- A number in decimal without leading zeros, as octets. -/
def numeral (n : Nat) : List UInt8 := (Decimal.digits n).map octet

/-- Nothing follows that a number could go on with. -/
def EndsNumber (rest : List UInt8) : Prop :=
  ∀ b ∈ rest.head?, isDigit b = false ∧ b ≠ octet '.' ∧ isExponent b = false

variable {supply : Supply} {negative : Bool} {n k left : Nat} {s rest : List UInt8}

/-! ## Digits -/

theorem toNat_glyph {d : Nat} (h : d < 10) : (glyph d).toNat = d + 0x30 := by
  revert d
  decide

theorem isDigit_glyph {d : Nat} (h : d < 10) : isDigit (glyph d) = true := by
  revert d
  decide

theorem glyph_inj {d e : Nat} (hd : d < 10) (he : e < 10) : glyph d = glyph e ↔ d = e := by
  rw [← UInt8.toNat_inj, toNat_glyph hd, toNat_glyph he, Nat.add_right_cancel_iff]

theorem exists_glyph {b : UInt8} (h : isDigit b = true) : ∃ d < 10, glyph d = b := by
  simp only [isDigit, Bool.and_eq_true, decide_eq_true_eq, UInt8.le_iff_toNat_le] at h
  have hlow : 0x30 ≤ b.toNat := h.1
  have hhigh : b.toNat ≤ 0x39 := h.2
  refine ⟨b.toNat - 0x30, by omega, UInt8.toNat_inj.1 ?_⟩
  rw [toNat_glyph (by omega)]
  omega

theorem exists_glyphs (h : ∀ b ∈ s, isDigit b = true) :
    ∃ ds : List Nat, (∀ d ∈ ds, d < 10) ∧ ds.map glyph = s := by
  induction s with
  | nil => exact ⟨[], fun _ hd => absurd hd List.not_mem_nil, rfl⟩
  | cons b s ih =>
    rw [List.forall_mem_cons] at h
    obtain ⟨d, hd, rfl⟩ := exists_glyph h.1
    obtain ⟨ds, hds, rfl⟩ := ih h.2
    exact ⟨d :: ds, List.forall_mem_cons.2 ⟨hd, hds⟩, rfl⟩

/-- A numeral has no zero in front, but for zero itself. -/
theorem exists_digits_of_numeral (n : Nat) :
    ∃ d ds, (∀ e ∈ d :: ds, e < 10) ∧ (d = 0 → ds = []) ∧ Radix.value 10 (d :: ds) = n ∧
      numeral n = (d :: ds).map glyph := by
  rcases Nat.eq_zero_or_pos n with rfl | hn
  · exact ⟨0, [], by decide, fun _ => rfl, rfl, rfl⟩
  · cases hdigits : Radix.digits 10 n with
    | nil => exact absurd (Radix.value_eq_zero_of_digits (by decide) hdigits) hn.ne'
    | cons d ds =>
      refine ⟨d, ds, fun e he => ?_, fun hd => ?_, ?_, ?_⟩
      · exact Radix.lt_of_mem_digits (by decide) (hdigits ▸ he)
      · exact absurd hd (Radix.ne_zero_of_digits (by decide) hdigits)
      · rw [← hdigits, Radix.value_digits (by decide)]
      · rw [numeral, Decimal.digits, if_neg hn.ne', List.map_map, hdigits]
        rfl

/-- Digits of which the first one is no zero are the numeral of their number. -/
theorem numeral_value {d : Nat} {ds : List Nat} (h : ∀ e ∈ d :: ds, e < 10) (hd : d ≠ 0) :
    numeral (Radix.value 10 (d :: ds)) = (d :: ds).map glyph := by
  have hdigits : Radix.digits 10 (Radix.value 10 (d :: ds)) = d :: ds := by
    rw [Radix.digits_value (by decide) h, List.dropWhile_cons_of_neg (by simpa using hd)]
  have hvalue : Radix.value 10 (d :: ds) ≠ 0 := by
    intro hzero
    rw [hzero, Radix.digits_zero] at hdigits
    cases hdigits
  rw [numeral, Decimal.digits, if_neg hvalue, List.map_map, hdigits]
  rfl

/-- Digits are all taken just if their number fits, and then give it. -/
theorem absorb_glyphs_iff {ds : List Nat} (hn : n < UInt64.size) (h : ∀ d ∈ ds, d < 10) :
    (absorb n (ds.map glyph)).1 = k ∧ (absorb n (ds.map glyph)).2.2 = 0 ↔
      k < UInt64.size ∧ ds.foldl (fun n d => n * 10 + d) n = k := by
  induction ds generalizing n with
  | nil =>
    refine ⟨fun h => ⟨?_, h.1⟩, fun h => ⟨h.2, rfl⟩⟩
    exact h.1 ▸ hn
  | cons d ds ih =>
    rw [List.forall_mem_cons] at h
    have hgrows : n * 10 + d ≤ ds.foldl (fun n d => n * 10 + d) (n * 10 + d) :=
      Decimal.le_foldl _ ds
    simp only [List.map_cons, List.foldl_cons, absorb, toNat_glyph h.1, Nat.add_sub_cancel]
    by_cases hfits : n * 10 + d < UInt64.size
    · rw [if_pos hfits]
      exact ih hfits h.2
    · rw [if_neg hfits]
      refine iff_of_false (fun h => Nat.succ_ne_zero _ h.2) ?_
      rintro ⟨hk, rfl⟩
      exact hfits (Nat.lt_of_le_of_lt hgrows hk)

/-! ## Numbers that are no counts -/

theorem stop_ne_ok {α : Type} {fault : Fault} {x : α × List UInt8} :
    (stop fault s : Parsed α) ≠ .ok x := by
  intro h
  cases h

theorem stopBefore_ne_ok {α : Type} {fault : Fault} {x : α × List UInt8} :
    (stopBefore fault s : Parsed α) ≠ .ok x := by
  intro h
  cases h

theorem signed_ne_count {x : Float} : signed negative x ≠ .count k := by
  intro h
  cases h

theorem scaled_ne_count {exponent : Int} :
    scaled supply negative n exponent s ≠ .ok (.count k, rest) := by
  unfold scaled
  split
  · cases supply
    · exact stop_ne_ok
    · exact stopBefore_ne_ok
  · simp [signed_ne_count]

theorem exponentPart_ne_count {exponent : Int} :
    exponentPart supply negative n exponent s ≠ .ok (.count k, rest) := by
  unfold exponentPart
  split
  split
  · exact stop_ne_ok
  · split
    · exact stop_ne_ok
    · split
      · exact scaled_ne_count
      · split
        · exact stop_ne_ok
        · simp [signed_ne_count]

theorem fractionPart_ne_count {exponent : Int} :
    fractionPart supply negative n exponent s ≠ .ok (.count k, rest) := by
  unfold fractionPart
  split
  · exact stop_ne_ok
  · exact stopBefore_ne_ok
  · dsimp only
    split
    · split
      · exact exponentPart_ne_count
      · exact scaled_ne_count
    · exact scaled_ne_count

/-- After its digits, a count has to be without a sign, and to be at its end. -/
theorem afterInteger_eq_count_iff :
    afterInteger supply negative n left s = .ok (.count k, rest) ↔
      negative = false ∧ left = 0 ∧ n = k ∧ s = rest ∧
        ∀ b ∈ rest.head?, b ≠ octet '.' ∧ isExponent b = false := by
  have hwhole : (if left = 0 then .ok (integer negative n, s)
      else scaled supply negative n left s : Parsed Number) = .ok (.count k, rest) ↔
      negative = false ∧ left = 0 ∧ n = k ∧ s = rest := by
    by_cases hleft : left = 0
    · rw [if_pos hleft, Except.ok.injEq, Prod.mk.injEq]
      cases negative with
      | false => simp [integer, hleft]
      | true =>
        have hsigned : integer true n ≠ .count k := by
          rw [integer, Bool.not_true, if_neg Bool.false_ne_true]
          split
          · exact signed_ne_count
          · simp
        simp [hsigned]
    · rw [if_neg hleft]
      exact iff_of_false scaled_ne_count fun h => hleft h.2.1
  unfold afterInteger
  cases s with
  | nil =>
    refine hwhole.trans ⟨?_, fun h => ⟨h.1, h.2.1, h.2.2.1, h.2.2.2.1⟩⟩
    rintro ⟨hsign, hleft, hn, rfl⟩
    exact ⟨hsign, hleft, hn, rfl, by simp⟩
  | cons b after =>
    dsimp only
    by_cases hpoint : b = octet '.'
    · rw [if_pos hpoint]
      refine iff_of_false fractionPart_ne_count ?_
      rintro ⟨-, -, -, rfl, hends⟩
      exact (hends b rfl).1 hpoint
    by_cases hexponent : isExponent b = true
    · rw [if_neg hpoint, if_pos hexponent]
      refine iff_of_false exponentPart_ne_count ?_
      rintro ⟨-, -, -, rfl, hends⟩
      exact absurd hexponent ((hends b rfl).2 ▸ Bool.false_ne_true)
    · rw [if_neg hpoint, if_neg hexponent]
      refine hwhole.trans ⟨?_, fun h => ⟨h.1, h.2.1, h.2.2.1, h.2.2.2.1⟩⟩
      rintro ⟨hsign, hleft, hn, rfl⟩
      refine ⟨hsign, hleft, hn, rfl, fun c hc => ?_⟩
      obtain rfl := Option.some.inj hc
      exact ⟨hpoint, Bool.eq_false_iff.2 hexponent⟩

/-! ## Counts -/

theorem unsignedNumber_zero_iff :
    unsignedNumber supply negative (octet '0' :: s) = .ok (.count k, rest) ↔
      negative = false ∧ k = 0 ∧ s = rest ∧ EndsNumber rest := by
  have hafter : afterInteger supply negative 0 0 s = .ok (.count k, rest) ↔
      negative = false ∧ k = 0 ∧ s = rest ∧
        ∀ b ∈ rest.head?, b ≠ octet '.' ∧ isExponent b = false := by
    rw [afterInteger_eq_count_iff]
    exact and_congr_right fun _ => ⟨fun h => ⟨h.2.1.symm, h.2.2⟩, fun h => ⟨rfl, h.1.symm, h.2⟩⟩
  cases s with
  | nil =>
    refine hafter.trans (and_congr_right fun _ => and_congr_right fun _ => and_congr_right ?_)
    rintro rfl
    simp [EndsNumber]
  | cons d after =>
    simp only [unsignedNumber, if_true]
    by_cases hd : isDigit d = true
    · rw [if_pos hd]
      refine iff_of_false stopBefore_ne_ok ?_
      rintro ⟨-, -, rfl, hends⟩
      exact absurd hd ((hends d rfl).1 ▸ Bool.false_ne_true)
    · rw [if_neg hd]
      refine hafter.trans (and_congr_right fun _ => and_congr_right fun _ => and_congr_right ?_)
      rintro rfl
      simp [EndsNumber, hd]

theorem unsignedNumber_digit {b : UInt8} (hzero : b ≠ octet '0') (hdigit : isDigit b = true) :
    unsignedNumber supply negative (b :: s) =
      afterInteger supply negative (absorb 0 (b :: s.takeWhile isDigit)).1
        (absorb 0 (b :: s.takeWhile isDigit)).2.2 (s.dropWhile isDigit) := by
  simp only [unsignedNumber, if_neg hzero, if_pos hdigit]

/-- A count is read where its numeral is at an end. -/
theorem unsignedNumber_numeral (hk : k < UInt64.size) (hends : EndsNumber rest) :
    unsignedNumber supply false (numeral k ++ rest) = .ok (.count k, rest) := by
  obtain ⟨d, ds, hlt, hzero, hvalue, hnumeral⟩ := exists_digits_of_numeral k
  rw [List.forall_mem_cons] at hlt
  by_cases hd : d = 0
  · obtain rfl := hzero hd
    have hk0 : k = 0 := by rw [← hvalue, hd]; rfl
    rw [hnumeral, hd]
    exact unsignedNumber_zero_iff.2 ⟨rfl, hk0, rfl, hends⟩
  · have hne : glyph d ≠ octet '0' := by
      intro h
      exact hd ((glyph_inj hlt.1 (by decide)).1 h)
    have hdigits : ∀ b ∈ ds.map glyph, isDigit b = true := by
      intro b hb
      obtain ⟨e, he, rfl⟩ := List.mem_map.1 hb
      exact isDigit_glyph (hlt.2 e he)
    have hstop : rest.takeWhile isDigit = [] ∧ rest.dropWhile isDigit = rest := by
      cases rest with
      | nil => exact ⟨rfl, rfl⟩
      | cons b rest =>
        have hb : ¬ isDigit b = true := by rw [(hends b rfl).1]; exact Bool.false_ne_true
        exact ⟨List.takeWhile_cons_of_neg hb, List.dropWhile_cons_of_neg hb⟩
    rw [hnumeral, List.map_cons, List.cons_append, unsignedNumber_digit hne (isDigit_glyph hlt.1),
      List.takeWhile_append_of_pos hdigits, List.dropWhile_append_of_pos hdigits, hstop.1, hstop.2,
      List.append_nil, ← List.map_cons, afterInteger_eq_count_iff]
    obtain ⟨hn, hleft⟩ := (absorb_glyphs_iff (by decide) (List.forall_mem_cons.2 hlt)).2
      ⟨hk, hvalue⟩
    exact ⟨rfl, hleft, hn, rfl, fun b hb => (hends b hb).2⟩

/-- Nothing else is read as a count. -/
theorem numeral_of_unsignedNumber
    (h : unsignedNumber supply negative s = .ok (.count k, rest)) :
    negative = false ∧ k < UInt64.size ∧ s = numeral k ++ rest ∧ EndsNumber rest := by
  cases s with
  | nil => cases h
  | cons b after =>
    by_cases hzero : b = octet '0'
    · subst hzero
      obtain ⟨hsign, rfl, rfl, hends⟩ := unsignedNumber_zero_iff.1 h
      exact ⟨hsign, by decide, rfl, hends⟩
    by_cases hdigit : isDigit b = true
    · rw [unsignedNumber_digit hzero hdigit, afterInteger_eq_count_iff] at h
      obtain ⟨hsign, hleft, hn, rfl, hends⟩ := h
      obtain ⟨d, hd, rfl⟩ := exists_glyph hdigit
      obtain ⟨ds, hds, htake⟩ := exists_glyphs (s := after.takeWhile isDigit)
        fun c hc => List.mem_takeWhile_imp hc
      rw [← htake, ← List.map_cons] at hn hleft
      have hlt : ∀ e ∈ d :: ds, e < 10 := List.forall_mem_cons.2 ⟨hd, hds⟩
      obtain ⟨hk, rfl⟩ := (absorb_glyphs_iff (by decide) hlt).1 ⟨hn, hleft⟩
      have hd0 : d ≠ 0 := fun hd0 => hzero (hd0 ▸ rfl)
      refine ⟨hsign, hk, ?_, fun c hc => ⟨?_, hends c hc⟩⟩
      · have hnumeral := numeral_value hlt hd0
        rw [Radix.value] at hnumeral
        rw [hnumeral, List.map_cons, htake, List.cons_append, List.takeWhile_append_dropWhile]
      · have hhead := List.head?_dropWhile_not isDigit after
        rwa [Option.mem_def.1 hc] at hhead
    · simp only [unsignedNumber, if_neg hzero, if_neg hdigit] at h
      cases h

theorem unsignedNumber_eq_count_iff :
    unsignedNumber supply negative s = .ok (.count k, rest) ↔
      negative = false ∧ k < UInt64.size ∧ s = numeral k ++ rest ∧ EndsNumber rest := by
  refine ⟨numeral_of_unsignedNumber, ?_⟩
  rintro ⟨rfl, hk, rfl, hends⟩
  exact unsignedNumber_numeral hk hends

/-! ## Between the tokens -/

def Blank (s : List UInt8) : Prop := ∀ b ∈ s, isBlank b = true

theorem skipBlanks_eq_nil_iff : skipBlanks s = [] ↔ Blank s := List.dropWhile_eq_nil_iff

theorem skipBlanks_append {blanks : List UInt8} (h : Blank blanks) (s : List UInt8) :
    skipBlanks (blanks ++ s) = skipBlanks s :=
  List.dropWhile_append_of_pos h

theorem skipBlanks_cons {b : UInt8} (h : isBlank b = false) (s : List UInt8) :
    skipBlanks (b :: s) = b :: s :=
  List.dropWhile_cons_of_neg (Bool.eq_false_iff.1 h)

theorem exists_blanks {b : UInt8} (h : skipBlanks s = b :: rest) :
    ∃ blanks, Blank blanks ∧ s = blanks ++ b :: rest := by
  refine ⟨s.takeWhile isBlank, fun c hc => List.mem_takeWhile_imp hc, ?_⟩
  rw [← h, skipBlanks, List.takeWhile_append_dropWhile]

theorem andThen_eq_ok_iff {α β : Type} {p : Parsed α} {next : α → List UInt8 → Parsed β}
    {y : β × List UInt8} :
    p.andThen next = .ok y ↔ ∃ x rest, p = .ok (x, rest) ∧ next x rest = .ok y := by
  cases p with
  | error e => simp [Parsed.andThen]
  | ok r =>
    obtain ⟨x, rest⟩ := r
    simp [Parsed.andThen]

theorem andThen_ne_ok {α β : Type} {p : Parsed α} {next : α → List UInt8 → Parsed β}
    {y : β × List UInt8} (h : ∀ x rest, next x rest ≠ .ok y) : p.andThen next ≠ .ok y := by
  intro hok
  obtain ⟨x, rest, -, hnext⟩ := andThen_eq_ok_iff.1 hok
  exact h x rest hnext

/-- A whole text is read if only blanks are left. -/
theorem readWhole_eq_ok_iff {α : Type} {parse : List UInt8 → Parsed α} {x : α} :
    readWhole parse s = .ok x ↔ ∃ rest, parse s = .ok (x, rest) ∧ Blank rest := by
  unfold readWhole
  cases parse s with
  | error e => simp [Parsed.andThen]
  | ok r =>
    obtain ⟨y, rest⟩ := r
    cases hblanks : skipBlanks rest with
    | nil => simp [Parsed.andThen, hblanks, ← skipBlanks_eq_nil_iff]
    | cons b after => simp [Parsed.andThen, hblanks, ← skipBlanks_eq_nil_iff, stop]

end ClusterProbe.Json
