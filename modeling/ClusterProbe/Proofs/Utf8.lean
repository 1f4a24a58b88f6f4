import ClusterProbe.Text.Utf8

/-!
# UTF-8 texts

A sequence of octets reads as a text exactly when it is what the text is written as.  Between the
two stands `Spells`: the well-formed sequences, with the code point that each one spells.
-/

namespace ClusterProbe.Utf8

/-! ## Writing -/

theorem toList_eq (b : ByteArray) : b.toList = b.data.toList := by
  suffices h : ∀ i r, ByteArray.toList.loop b i r = r.reverse ++ b.data.toList.drop i from h 0 []
  intro i r
  fun_induction ByteArray.toList.loop b i r with
  | case1 i r hlt ih =>
    have hi : i < b.data.toList.length := by rwa [Array.length_toList]
    rw [ih, List.reverse_cons, List.append_assoc, List.singleton_append,
      show b.get! i = b.data.toList[i] from getElem!_pos b.data i hlt, List.getElem_cons_drop]
  | case2 i r hge =>
    rw [List.drop_eq_nil_of_le (by rw [Array.length_toList]; exact Nat.le_of_not_lt hge),
      List.append_nil]

theorem encode_ofList (cs : List Char) :
    encode (String.ofList cs) = cs.flatMap String.utf8EncodeChar := by
  rw [encode, String.toUTF8_eq_toByteArray, toList_eq, String.toByteArray_ofList, List.utf8Encode,
    List.toList_data_toByteArray]

@[simp] theorem encode_append (s t : String) : encode (s ++ t) = encode s ++ encode t := by
  rw [← String.ofList_toList (s := s), ← String.ofList_toList (s := t), ← String.ofList_append,
    encode_ofList, encode_ofList, encode_ofList, List.flatMap_append]

/-! ## Well-formed sequences -/

/-- A well-formed sequence of octets and its code point, in digits to base 64: the share of the
leading octet, and those of the octets that follow it. -/
inductive Spells : (code : Nat) → List UInt8 → Prop
  | one (w : Nat) (hw : w < 0x80) : Spells w [.ofNat w]
  | two (w x : Nat) (hw : 2 ≤ w) (hw' : w < 32) (hx : x < 64) :
      Spells (w * 64 + x) [.ofNat (w + 0xC0), .ofNat (x + 0x80)]
  | three (w x y : Nat) (hw : w < 16) (hx : x < 64) (hy : y < 64) (shortest : w = 0 → 32 ≤ x)
      (scalar : w = 13 → x < 32) :
      Spells (w * 4096 + x * 64 + y)
        [.ofNat (w + 0xE0), .ofNat (x + 0x80), .ofNat (y + 0x80)]
  | four (w x y z : Nat) (hw : w < 5) (hx : x < 64) (hy : y < 64) (hz : z < 64)
      (shortest : w = 0 → 16 ≤ x) (within : w = 4 → x < 16) :
      Spells (w * 262144 + x * 4096 + y * 64 + z)
        [.ofNat (w + 0xF0), .ofNat (x + 0x80), .ofNat (y + 0x80), .ofNat (z + 0x80)]

theorem Spells.isValidChar {code : Nat} {bs : List UInt8} (h : Spells code bs) :
    code.isValidChar := by
  cases h with
  | one w hw => exact .inl (by omega)
  | two w x hw hw' hx => exact .inl (by omega)
  | three w x y hw hx hy shortest scalar =>
    unfold Nat.isValidChar
    omega
  | four w x y z hw hx hy hz shortest within =>
    unfold Nat.isValidChar
    omega

/-- A well-formed sequence is what its character is written as. -/
theorem Spells.eq_utf8EncodeChar {code : Nat} {bs : List UInt8} (h : Spells code bs) :
    bs = String.utf8EncodeChar (Char.ofNat code) := by
  have hcode : (Char.ofNat code).val.toNat = code := by
    rw [Char.ofNat, dif_pos h.isValidChar]
    rfl
  unfold String.utf8EncodeChar
  rw [hcode]
  dsimp only
  -- The digits in base 64 are found again in the code.
  cases h with
  | one w hw => rw [if_pos (by omega)]
  | two w x hw hw' hx =>
    rw [if_neg (by omega), if_pos (by omega), show (w * 64 + x) / 64 % 32 = w by omega,
      show (w * 64 + x) % 64 = x by omega]
  | three w x y hw hx hy shortest scalar =>
    rw [if_neg (by omega), if_neg (by omega), if_pos (by omega),
      show (w * 4096 + x * 64 + y) / 4096 % 16 = w by omega,
      show (w * 4096 + x * 64 + y) / 64 % 64 = x by omega,
      show (w * 4096 + x * 64 + y) % 64 = y by omega]
  | four w x y z hw hx hy hz shortest within =>
    rw [if_neg (by omega), if_neg (by omega), if_neg (by omega),
      show (w * 262144 + x * 4096 + y * 64 + z) / 262144 % 8 = w by omega,
      show (w * 262144 + x * 4096 + y * 64 + z) / 4096 % 64 = x by omega,
      show (w * 262144 + x * 4096 + y * 64 + z) / 64 % 64 = y by omega,
      show (w * 262144 + x * 4096 + y * 64 + z) % 64 = z by omega]

theorem spells_utf8EncodeChar (c : Char) : Spells c.val.toNat (String.utf8EncodeChar c) := by
  have hvalid : c.val.toNat < 0xD800 ∨ 0xDFFF < c.val.toNat ∧ c.val.toNat < 0x110000 := c.valid
  unfold String.utf8EncodeChar
  generalize c.val.toNat = v at hvalid
  dsimp only
  split
  · next h1 => exact .one v (by omega)
  split
  · next h1 h2 =>
    have hspells := Spells.two (v / 64 % 32) (v % 64) (by omega) (by omega) (by omega)
    rwa [show v / 64 % 32 * 64 + v % 64 = v by omega] at hspells
  split
  · next h1 h2 h3 =>
    have hspells := Spells.three (v / 4096 % 16) (v / 64 % 64) (v % 64) (by omega) (by omega)
      (by omega) (by omega) (by omega)
    rwa [show v / 4096 % 16 * 4096 + v / 64 % 64 * 64 + v % 64 = v by omega] at hspells
  · next h1 h2 h3 =>
    have hspells := Spells.four (v / 262144 % 8) (v / 4096 % 64) (v / 64 % 64) (v % 64) (by omega)
      (by omega) (by omega) (by omega) (by omega) (by omega)
    rwa [show v / 262144 % 8 * 262144 + v / 4096 % 64 * 4096 + v / 64 % 64 * 64 + v % 64 = v by
      omega] at hspells

/-! ## Reading one character -/

theorem toNat_ofNat {n : Nat} (h : n < 256) : (UInt8.ofNat n).toNat = n :=
  UInt8.toNat_ofNat_of_lt' h

theorem exists_ofNat (b : UInt8) : ∃ n < 256, b = .ofNat n :=
  ⟨b.toNat, b.toNat_lt, UInt8.ofNat_toNat.symm⟩

/-- A leading octet, with what it announces. -/
inductive Leads : UInt8 → Lead → Prop where
  | one (w : Nat) (hw : w < 0x80) : Leads (.ofNat w) ⟨w, 0, 0x80, 0xBF⟩
  | two (w : Nat) (hw : 2 ≤ w) (hw' : w < 32) : Leads (.ofNat (w + 0xC0)) ⟨w, 1, 0x80, 0xBF⟩
  | three (w : Nat) (hw : w < 16) : Leads (.ofNat (w + 0xE0))
      ⟨w, 2, .ofNat ((if w = 0 then 32 else 0) + 0x80), .ofNat ((if w = 13 then 31 else 63) + 0x80)⟩
  | four (w : Nat) (hw : w < 5) : Leads (.ofNat (w + 0xF0))
      ⟨w, 3, .ofNat ((if w = 0 then 16 else 0) + 0x80), .ofNat ((if w = 4 then 15 else 63) + 0x80)⟩

/-- A leading octet, by its number. -/
theorem lead?_ofNat {n : Nat} (h : n < 256) : lead? (.ofNat n) =
    if n < 0x80 then some ⟨n, 0, 0x80, 0xBF⟩
    else if n < 0xC2 then none
    else if n < 0xE0 then some ⟨n - 0xC0, 1, 0x80, 0xBF⟩
    else if n < 0xF0 then
      some ⟨n - 0xE0, 2, .ofNat ((if n - 0xE0 = 0 then 32 else 0) + 0x80),
        .ofNat ((if n - 0xE0 = 13 then 31 else 63) + 0x80)⟩
    else if n < 0xF5 then
      some ⟨n - 0xF0, 3, .ofNat ((if n - 0xF0 = 0 then 16 else 0) + 0x80),
        .ofNat ((if n - 0xF0 = 4 then 15 else 63) + 0x80)⟩
    else none := by
  simp only [lead?, UInt8.lt_iff_toNat_lt, ← UInt8.toNat_inj, toNat_ofNat h]
  refine ite_congr rfl (fun _ => rfl) fun _ => ite_congr rfl (fun _ => rfl) fun _ =>
    ite_congr rfl (fun _ => rfl) fun hthree => ite_congr rfl (fun _ => ?_) fun hfour =>
      ite_congr rfl (fun _ => ?_) fun _ => rfl
  · have h0 : n - 0xE0 = 0 ↔ n = (0xE0 : UInt8).toNat := by change _ ↔ n = 0xE0; omega
    have h13 : n - 0xE0 = 13 ↔ n = (0xED : UInt8).toNat := by change _ ↔ n = 0xED; omega
    simp only [h0, h13]
    split <;> split <;> rfl
  · have h0 : n - 0xF0 = 0 ↔ n = (0xF0 : UInt8).toNat := by change _ ↔ n = 0xF0; omega
    have h4 : n - 0xF0 = 4 ↔ n = (0xF4 : UInt8).toNat := by change _ ↔ n = 0xF4; omega
    simp only [h0, h4]
    split <;> split <;> rfl

theorem lead?_eq_some_iff {b : UInt8} {l : Lead} : lead? b = some l ↔ Leads b l := by
  constructor
  · intro h
    obtain ⟨n, hn, rfl⟩ := exists_ofNat b
    rw [lead?_ofNat hn] at h
    split at h
    · next hone =>
      obtain rfl := Option.some.inj h
      exact .one n hone
    split at h
    · cases h
    split at h
    · next hlow hhigh =>
      obtain rfl := Option.some.inj h
      have hleads := Leads.two (n - 0xC0) (by omega) (by omega)
      rwa [Nat.sub_add_cancel (by omega)] at hleads
    split at h
    · next hlow hhigh =>
      obtain rfl := Option.some.inj h
      have hleads := Leads.three (n - 0xE0) (by omega)
      rwa [Nat.sub_add_cancel (by omega)] at hleads
    split at h
    · next hlow hhigh =>
      obtain rfl := Option.some.inj h
      have hleads := Leads.four (n - 0xF0) (by omega)
      rwa [Nat.sub_add_cancel (by omega)] at hleads
    · cases h
  · intro h
    cases h with
    | one w hw => rw [lead?_ofNat (by omega), if_pos hw]
    | two w hw hw' =>
      rw [lead?_ofNat (by omega), if_neg (by omega), if_neg (by omega), if_pos (by omega),
        Nat.add_sub_cancel]
    | three w hw =>
      rw [lead?_ofNat (by omega), if_neg (by omega), if_neg (by omega), if_neg (by omega),
        if_pos (by omega), Nat.add_sub_cancel]
    | four w hw =>
      rw [lead?_ofNat (by omega), if_neg (by omega), if_neg (by omega), if_neg (by omega),
        if_neg (by omega), if_pos (by omega), Nat.add_sub_cancel]

/-- An octet in its range is read as a digit in base 64. -/
theorem tails_succ_iff {n code k low high : Nat} {s rest : List UInt8} (hlow : low < 64)
    (hhigh : high < 64) :
    tails (n + 1) (.ofNat (low + 0x80)) (.ofNat (high + 0x80)) code s = (some k, rest) ↔
      ∃ x s', low ≤ x ∧ x ≤ high ∧ s = .ofNat (x + 0x80) :: s' ∧
        tails n 0x80 0xBF (code * 64 + x) s' = (some k, rest) := by
  have hl := toNat_ofNat (n := low + 0x80) (by omega)
  have hh := toNat_ofNat (n := high + 0x80) (by omega)
  constructor
  · intro h
    cases s with
    | nil => simp [tails] at h
    | cons b s =>
      obtain ⟨m, hm, rfl⟩ := exists_ofNat b
      simp only [tails, UInt8.le_iff_toNat_le, toNat_ofNat hm, hl, hh] at h
      split at h
      · next hrange =>
        refine ⟨m - 0x80, s, by omega, by omega, by rw [Nat.sub_add_cancel (by omega)], ?_⟩
        rwa [show m - 0x80 = m % 64 by omega]
      · simp at h
  · rintro ⟨x, s', hxlow, hxhigh, rfl, h⟩
    simp only [tails, UInt8.le_iff_toNat_le, hl, hh, toNat_ofNat (n := x + 0x80) (by omega)]
    rw [if_pos ⟨by omega, by omega⟩, show (x + 0x80) % 64 = x by omega, h]

/-- A later octet has all of the range. -/
theorem tails_next_iff {n code k : Nat} {s rest : List UInt8} :
    tails (n + 1) 0x80 0xBF code s = (some k, rest) ↔
      ∃ x s', x < 64 ∧ s = .ofNat (x + 0x80) :: s' ∧
        tails n 0x80 0xBF (code * 64 + x) s' = (some k, rest) := by
  have h : tails (n + 1) (.ofNat (0 + 0x80)) (.ofNat (63 + 0x80)) code s = (some k, rest) ↔
      ∃ x s', 0 ≤ x ∧ x ≤ 63 ∧ s = .ofNat (x + 0x80) :: s' ∧
        tails n 0x80 0xBF (code * 64 + x) s' = (some k, rest) :=
    tails_succ_iff (by omega) (by omega)
  simp only [Nat.zero_le, true_and, show ∀ x, x ≤ 63 ↔ x < 64 by omega] at h
  exact h

theorem tails_zero_iff {code k : Nat} {low high : UInt8} {s rest : List UInt8} :
    tails 0 low high code s = (some k, rest) ↔ k = code ∧ s = rest := by
  rw [tails, Prod.mk.injEq, Option.some.injEq, eq_comm]

theorem step_eq_some_iff_leads {b : UInt8} {s rest : List UInt8} {c : Char} :
    step b s = (some c, rest) ↔ ∃ l code, Leads b l ∧
      tails l.tails l.low l.high l.bits s = (some code, rest) ∧ Char.ofNat code = c := by
  simp only [← lead?_eq_some_iff, step]
  cases lead? b with
  | none => simp
  | some l =>
    simp only [Option.some.injEq, Prod.ext_iff, Option.map_eq_some_iff]
    constructor
    · rintro ⟨⟨code, hcode, hc⟩, hrest⟩
      exact ⟨l, code, rfl, ⟨hcode, hrest⟩, hc⟩
    · rintro ⟨_, code, rfl, ⟨hcode, hrest⟩, hc⟩
      exact ⟨⟨code, hcode, hc⟩, hrest⟩

theorem step_eq_some_iff_spells {b : UInt8} {s rest : List UInt8} {c : Char} :
    step b s = (some c, rest) ↔
      ∃ code bs, Spells code (b :: bs) ∧ s = bs ++ rest ∧ Char.ofNat code = c := by
  rw [step_eq_some_iff_leads]
  constructor
  · rintro ⟨l, code, hlead, htails, rfl⟩
    -- The range of the second octet leaves out what is spelled shorter, and what is no character.
    cases hlead with
    | one w hw =>
      obtain ⟨rfl, rfl⟩ := tails_zero_iff.1 htails
      exact ⟨_, [], .one _ hw, rfl, rfl⟩
    | two w hw hw' =>
      obtain ⟨x, s, hx, rfl, hend⟩ := tails_next_iff.1 htails
      obtain ⟨rfl, rfl⟩ := tails_zero_iff.1 hend
      exact ⟨_, _, .two w x hw hw' hx, rfl, rfl⟩
    | three w hw =>
      obtain ⟨x, s, hlow, hhigh, rfl, hnext⟩ :=
        (tails_succ_iff (by split <;> omega) (by split <;> omega)).1 htails
      obtain ⟨y, s, hy, rfl, hend⟩ := tails_next_iff.1 hnext
      obtain ⟨rfl, rfl⟩ := tails_zero_iff.1 hend
      refine ⟨w * 4096 + x * 64 + y, _, .three w x y hw ?_ hy ?_ ?_, rfl, ?_⟩
      · split at hhigh <;> omega
      · rintro rfl
        exact hlow
      · rintro rfl
        exact Nat.lt_succ_of_le hhigh
      · congr 1
        dsimp only
        omega
    | four w hw =>
      obtain ⟨x, s, hlow, hhigh, rfl, hnext⟩ :=
        (tails_succ_iff (by split <;> omega) (by split <;> omega)).1 htails
      obtain ⟨y, s, hy, rfl, hlast⟩ := tails_next_iff.1 hnext
      obtain ⟨z, s, hz, rfl, hend⟩ := tails_next_iff.1 hlast
      obtain ⟨rfl, rfl⟩ := tails_zero_iff.1 hend
      refine ⟨w * 262144 + x * 4096 + y * 64 + z, _, .four w x y z hw ?_ hy hz ?_ ?_, rfl, ?_⟩
      · split at hhigh <;> omega
      · rintro rfl
        exact hlow
      · rintro rfl
        exact Nat.lt_succ_of_le hhigh
      · congr 1
        dsimp only
        omega
  · rintro ⟨code, bs, hspells, rfl, rfl⟩
    cases hspells with
    | one w hw => exact ⟨_, _, .one code hw, tails_zero_iff.2 ⟨rfl, rfl⟩, rfl⟩
    | two w x hw hw' hx =>
      exact ⟨_, _, .two w hw hw', tails_next_iff.2 ⟨x, _, hx, rfl, rfl⟩, rfl⟩
    | three w x y hw hx hy shortest scalar =>
      refine ⟨_, _, .three w hw, (tails_succ_iff (by split <;> omega) (by split <;> omega)).2
        ⟨x, _, ?_, ?_, rfl, tails_next_iff.2 ⟨y, _, hy, rfl, tails_zero_iff.2 ⟨rfl, rfl⟩⟩⟩, ?_⟩
      · split <;> omega
      · split <;> omega
      · congr 1
        dsimp only
        omega
    | four w x y z hw hx hy hz shortest within =>
      refine ⟨_, _, .four w hw, (tails_succ_iff (by split <;> omega) (by split <;> omega)).2
        ⟨x, _, ?_, ?_, rfl, tails_next_iff.2 ⟨y, _, hy, rfl, tails_next_iff.2 ⟨z, _, hz, rfl,
          tails_zero_iff.2 ⟨rfl, rfl⟩⟩⟩⟩, ?_⟩
      · split <;> omega
      · split <;> omega
      · congr 1
        dsimp only
        omega

/-- A character is read exactly where it is what the text goes on with. -/
theorem step_eq_some_iff {b : UInt8} {s rest : List UInt8} {c : Char} :
    step b s = (some c, rest) ↔ b :: s = String.utf8EncodeChar c ++ rest := by
  rw [step_eq_some_iff_spells]
  constructor
  · rintro ⟨code, bs, hspells, rfl, rfl⟩
    rw [← hspells.eq_utf8EncodeChar, List.cons_append]
  · intro h
    obtain ⟨b', bs, hbs⟩ := List.exists_cons_of_ne_nil (String.utf8EncodeChar_ne_nil (c := c))
    rw [hbs, List.cons_append, List.cons.injEq] at h
    obtain ⟨rfl, rfl⟩ := h
    exact ⟨_, bs, hbs ▸ spells_utf8EncodeChar c, rfl, Char.ofNat_toNat c⟩

/-! ## Whole texts -/

theorem scan_utf8EncodeChar_append (c : Char) (rest : List UInt8) :
    scan (String.utf8EncodeChar c ++ rest) = some c :: scan rest := by
  obtain ⟨b, bs, hbs⟩ := List.exists_cons_of_ne_nil (String.utf8EncodeChar_ne_nil (c := c))
  have hstep : step b (bs ++ rest) = (some c, rest) := step_eq_some_iff.2 (by rw [hbs]; rfl)
  rw [hbs, List.cons_append, scan, hstep]

theorem scan_eq_map_some_iff {s : List UInt8} {cs : List Char} :
    scan s = cs.map some ↔ s = cs.flatMap String.utf8EncodeChar := by
  constructor
  · intro h
    induction cs generalizing s with
    | nil =>
      cases s with
      | nil => rfl
      | cons b s =>
        rw [scan] at h
        cases h
    | cons c cs ih =>
      cases s with
      | nil =>
        rw [scan] at h
        cases h
      | cons b s =>
        rw [scan, List.map_cons, List.cons.injEq] at h
        rw [step_eq_some_iff.1 (Prod.ext h.1 rfl), List.flatMap_cons, ← ih h.2]
  · rintro rfl
    induction cs with
    | nil => rw [List.flatMap_nil, scan, List.map_nil]
    | cons c cs ih => rw [List.flatMap_cons, scan_utf8EncodeChar_append, ih, List.map_cons]

theorem mapM_id_eq_some_iff {α : Type} {xs : List (Option α)} {ys : List α} :
    xs.mapM id = some ys ↔ xs = ys.map some := by
  induction xs generalizing ys with
  | nil => cases ys <;> simp
  | cons x xs ih =>
    cases x with
    | none => cases ys <;> simp
    | some x =>
      rw [List.mapM_cons, id, Option.bind_eq_bind, Option.bind_some, Option.bind_eq_bind,
        Option.bind_eq_some_iff]
      simp only [ih, Option.pure_def, Option.some.injEq]
      cases ys with
      | nil => simp
      | cons y ys =>
        simp only [List.cons.injEq, List.map_cons, Option.some.injEq]
        exact ⟨fun ⟨_, h, hx, hys⟩ => ⟨hx, hys ▸ h⟩, fun ⟨hx, h⟩ => ⟨ys, h, hx, rfl⟩⟩

/-- A sequence of octets reads as a text exactly when it is what the text is written as. -/
theorem decode?_eq_some_iff {s : List UInt8} {text : String} :
    decode? s = some text ↔ s = encode text := by
  rw [decode?, ← String.ofList_toList (s := text), encode_ofList]
  simp only [Option.map_eq_some_iff, mapM_id_eq_some_iff, scan_eq_map_some_iff]
  constructor
  · rintro ⟨cs, rfl, hcs⟩
    rw [String.ofList_injective hcs]
  · rintro rfl
    exact ⟨_, rfl, rfl⟩

@[simp] theorem decode?_encode (text : String) : decode? (encode text) = some text :=
  decode?_eq_some_iff.2 rfl

end ClusterProbe.Utf8
