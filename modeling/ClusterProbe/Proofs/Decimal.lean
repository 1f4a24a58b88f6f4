import ClusterProbe.Text.Decimal

/-!
# Decimal counts

A text is read as a count exactly when it gives one: at least one digit behind an optional sign,
of a value that fits in 64 bits, leading zeros and all.
-/

namespace ClusterProbe.Decimal

/-- The text gives the number, in digits behind an optional sign. -/
def Gives (text : String) (n : Nat) : Prop :=
  ∃ ds : List Nat, ds ≠ [] ∧ (∀ d ∈ ds, d < 10) ∧ Radix.value 10 ds = n ∧
    (text.toList = ds.map symbol ∨ text.toList = '+' :: ds.map symbol)

/-! ## Digits -/

theorem digit?_symbol {d : Nat} (h : d < 10) : digit? (symbol d) = some d := by
  revert d
  decide

theorem digit?_eq_some_iff {c : Char} {d : Nat} : digit? c = some d ↔ d < 10 ∧ symbol d = c := by
  constructor
  · intro h
    rw [digit?] at h
    split at h
    · next hrange =>
      have hd : c.toNat - 48 = d := Option.some.inj h
      have hlow : 48 ≤ c.toNat := hrange.1
      have hhigh : c.toNat ≤ 57 := hrange.2
      have hsymbol : ∀ d < 10, symbol d = Char.ofNat (d + 48) := by decide
      have hd10 : d < 10 := by omega
      refine ⟨hd10, ?_⟩
      rw [hsymbol d hd10, show d + 48 = c.toNat by omega, Char.ofNat_toNat]
    · cases h
  · rintro ⟨h, rfl⟩
    exact digit?_symbol h

theorem symbol_ne_plus {d : Nat} (h : d < 10) : symbol d ≠ '+' := by
  revert d
  decide

/-! ## Reading -/

theorem le_foldl (n : Nat) (ds : List Nat) : n ≤ ds.foldl (fun n d => n * 10 + d) n := by
  induction ds generalizing n with
  | nil => exact Nat.le_refl n
  | cons d ds ih =>
    have hnext : n ≤ n * 10 + d := by omega
    exact Nat.le_trans hnext (ih _)

/-- What is read after a number: digits alone, while the number with them fits. -/
theorem accumulate_eq_ok_iff {n m : Nat} {cs : List Char} (hn : n < UInt64.size) :
    accumulate n cs = .ok m ↔ m < UInt64.size ∧ ∃ ds : List Nat, (∀ d ∈ ds, d < 10) ∧
      cs = ds.map symbol ∧ ds.foldl (fun n d => n * 10 + d) n = m := by
  induction cs generalizing n with
  | nil =>
    constructor
    · intro h
      cases h
      exact ⟨hn, [], fun _ hd => absurd hd List.not_mem_nil, rfl, rfl⟩
    · rintro ⟨-, ds, -, hds, rfl⟩
      rw [List.map_eq_nil_iff.1 hds.symm]
      rfl
  | cons c cs ih =>
    constructor
    · intro h
      simp only [accumulate] at h
      split at h
      · cases h
      · next d hd =>
        split at h
        · next hfits =>
          obtain ⟨hd10, rfl⟩ := digit?_eq_some_iff.1 hd
          obtain ⟨hm, ds, hds, rfl, rfl⟩ := (ih hfits).1 h
          exact ⟨hm, d :: ds, List.forall_mem_cons.2 ⟨hd10, hds⟩, rfl, rfl⟩
        · cases h
    · rintro ⟨hm, ds, hds, hcs, rfl⟩
      obtain ⟨d, ds, rfl, rfl, rfl⟩ := List.map_eq_cons_iff.1 hcs.symm
      have hd10 := List.forall_mem_cons.1 hds
      -- The number only grows, so it has fitted at every digit.
      have hfits : n * 10 + d < UInt64.size := Nat.lt_of_le_of_lt (le_foldl _ ds) hm
      simp only [accumulate, digit?_symbol hd10.1]
      rw [if_pos hfits]
      exact (ih hfits).2 ⟨hm, ds, hd10.2, rfl, rfl⟩

theorem unsigned_eq_ok_iff {text cs : List Char} :
    unsigned text = .ok cs ↔ cs ≠ [] ∧ (text = '+' :: cs ∨ text = cs ∧ cs.head? ≠ some '+') := by
  constructor
  · intro h
    unfold unsigned at h
    split at h
    · cases h
    · cases h
    · next cs' hcs =>
      cases h
      exact ⟨fun hnil => hcs (hnil ▸ rfl), .inl rfl⟩
    · next hnil hplus hcons =>
      cases h
      refine ⟨hnil, .inr ⟨rfl, ?_⟩⟩
      intro hhead
      obtain ⟨cs, rfl⟩ := List.head?_eq_some_iff.1 hhead
      exact hcons cs rfl
  · rintro ⟨hne, rfl | ⟨rfl, hhead⟩⟩
    · cases cs with
      | nil => exact absurd rfl hne
      | cons c cs => rfl
    · unfold unsigned
      split
      · exact absurd rfl hne
      · exact absurd rfl hhead
      · exact absurd rfl hhead
      · rfl

theorem read_eq_ok_iff {text : String} {n : UInt64} :
    read text = .ok n ↔
      ∃ digits, unsigned text.toList = .ok digits ∧ accumulate 0 digits = .ok n.toNat := by
  simp only [read]
  cases unsigned text.toList with
  | error why => simp [bind, Except.bind]
  | ok digits =>
    simp only [bind, Except.bind, Except.ok.injEq, exists_eq_left']
    cases haccumulate : accumulate 0 digits with
    | error why => simp
    | ok m =>
      have hm : (UInt64.ofNat m).toNat = m :=
        UInt64.toNat_ofNat_of_lt' (accumulate_lt (by decide) haccumulate)
      simp only [pure, Except.pure, Except.ok.injEq, ← UInt64.toNat_inj, hm]

/-- A text is read as the number that it gives, and no other text is read. -/
theorem read_eq_ok_iff_gives {text : String} {n : UInt64} :
    read text = .ok n ↔ Gives text n.toNat := by
  have hzero : 0 < UInt64.size := by decide
  simp only [read_eq_ok_iff, unsigned_eq_ok_iff, accumulate_eq_ok_iff hzero]
  constructor
  · rintro ⟨_, ⟨hne, htext⟩, -, ds, hds, rfl, hvalue⟩
    exact ⟨ds, fun hnil => hne (hnil ▸ rfl), hds, hvalue, htext.symm.imp_left And.left⟩
  · rintro ⟨ds, hne, hds, hvalue, htext⟩
    refine ⟨_, ⟨fun hnil => hne (List.map_eq_nil_iff.1 hnil), ?_⟩, n.toNat_lt, ds, hds, rfl, hvalue⟩
    rcases htext with htext | htext
    · refine .inr ⟨htext, fun hhead => ?_⟩
      obtain ⟨d, ds', rfl⟩ := List.exists_cons_of_ne_nil hne
      exact symbol_ne_plus (List.forall_mem_cons.1 hds).1 (Option.some.inj hhead)
    · exact .inl htext

/-- A count is read back from the text that it is written as. -/
theorem read_text (n : UInt64) : read (text n.toNat) = .ok n := by
  refine read_eq_ok_iff_gives.2 ?_
  rw [text, Gives, String.toList_ofList, digits]
  split
  · next h0 => exact ⟨[0], by decide, by decide, h0.symm, .inl rfl⟩
  · next h0 =>
    refine ⟨Radix.digits 10 n.toNat, fun hnil => h0 ?_,
      fun d hd => Radix.lt_of_mem_digits (by decide) hd, Radix.value_digits (by decide) _, .inl rfl⟩
    rw [← Radix.value_digits (b := 10) (by decide) n.toNat, hnil, Radix.value_nil]

/-! ## Writing -/

theorem space_not_mem_digits (n : Nat) : ' ' ∉ digits n := by
  have hsymbol : ∀ d < 10, symbol d ≠ ' ' := by decide
  unfold digits
  split
  · decide
  · intro h
    obtain ⟨d, hd, hspace⟩ := List.mem_map.1 h
    exact hsymbol d (Radix.lt_of_mem_digits (by decide) hd) hspace

theorem text_inj {n n' : UInt64} : text n.toNat = text n'.toNat ↔ n = n' := by
  refine ⟨fun h => ?_, fun h => by rw [h]⟩
  have hread := read_text n
  rw [h, read_text n'] at hread
  exact (Except.ok.inj hread).symm

/-- A number ends at the first blank behind it. -/
theorem text_append_inj {n n' : UInt64} {rest rest' : List Char} :
    (text n.toNat).toList ++ ' ' :: rest = (text n'.toNat).toList ++ ' ' :: rest' ↔
      n = n' ∧ rest = rest' := by
  have hnumber (n : UInt64) (rest : List Char) :
      ((text n.toNat).toList ++ ' ' :: rest).takeWhile (· ≠ ' ') = (text n.toNat).toList := by
    rw [List.takeWhile_append_of_pos]
    · simp
    · intro c hc
      rw [decide_eq_true_iff]
      rintro rfl
      rw [text, String.toList_ofList] at hc
      exact space_not_mem_digits _ hc
  constructor
  · intro h
    have htext : (text n.toNat).toList = (text n'.toNat).toList := by
      rw [← hnumber n rest, h, hnumber n' rest']
    rw [htext, List.append_cancel_left_eq, List.cons.injEq] at h
    exact ⟨text_inj.1 (String.toList_inj.1 htext), h.2⟩
  · rintro ⟨rfl, rfl⟩
    rfl

end ClusterProbe.Decimal
