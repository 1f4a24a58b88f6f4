import ClusterProbe.Base58
import Mathlib.Data.List.Induction
import Mathlib.Data.List.TakeWhile

/-!
# Base58 texts are canonical

No two texts stand for the same octets: whatever can be read is what the octets are written as.
-/

namespace ClusterProbe

namespace Radix

@[simp] theorem value_zero_cons (b : Nat) (ds : List Nat) : value b (0 :: ds) = value b ds := by
  simp only [value, List.foldl_cons, Nat.zero_mul, Nat.add_zero]

@[simp] theorem value_replicate_append (b k : Nat) (ds : List Nat) :
    value b (List.replicate k 0 ++ ds) = value b ds := by
  induction k with
  | zero => rfl
  | succ k ih => rw [List.replicate_succ, List.cons_append, value_zero_cons, ih]

theorem value_eq_zero_of_digits {b n : Nat} (hb : 2 ≤ b) (h : digits b n = []) : n = 0 := by
  rw [← value_digits hb n, h, value_nil]

/-- Reading a number and writing it gives its digits without the leading zeros. -/
theorem digits_value {b : Nat} (hb : 2 ≤ b) {ds : List Nat} (h : ∀ d ∈ ds, d < b) :
    digits b (value b ds) = ds.dropWhile (· == 0) := by
  -- The last digit is the one that writing the number gives last.
  induction ds using List.reverseRecOn with
  | nil => simp
  | append_singleton ds d ih =>
    have hd : d < b := h d (by simp)
    have ih := ih fun e he => h e (List.mem_append_left _ he)
    rw [value_concat, List.dropWhile_append, ← ih]
    rcases Nat.eq_zero_or_pos (value b ds * b + d) with hzero | hpos
    · have hd' : d = 0 := by omega
      have hv : value b ds = 0 := by
        have hmul : value b ds * b = 0 := by omega
        rcases Nat.mul_eq_zero.1 hmul with hv | hb'
        · exact hv
        · omega
      rw [hzero, hv, hd', digits_zero]
      rfl
    · have hdiv : (value b ds * b + d) / b = value b ds := by
        rw [Nat.add_comm, Nat.add_mul_div_right d _ (by omega), Nat.div_eq_of_lt hd, Nat.zero_add]
      have hmod : (value b ds * b + d) % b = d := by
        rw [Nat.add_comm, Nat.add_mul_mod_self_right, Nat.mod_eq_of_lt hd]
      rw [digits_of_pos hb hpos, hdiv, hmod]
      split
      · next hempty =>
        have hdigits := List.isEmpty_iff.1 hempty
        have hv := value_eq_zero_of_digits hb hdigits
        have hd' : (d == 0) = false := by
          rw [hv, Nat.zero_mul, Nat.zero_add] at hpos
          exact beq_false_of_ne (by omega)
        simp [hdigits, hd']
      · rfl

/-- No number is written with a leading zero. -/
theorem ne_zero_of_digits {b n d : Nat} {ds : List Nat} (hb : 2 ≤ b) (h : digits b n = d :: ds) :
    d ≠ 0 := by
  rintro rfl
  have hdrop := digits_value hb fun d hd => lt_of_mem_digits hb (n := n) hd
  rw [value_digits hb, h, List.dropWhile_cons] at hdrop
  have hle := (List.dropWhile_suffix (l := ds) (· == 0)).length_le
  have hlength := congrArg List.length hdrop
  simp at hlength
  omega

end Radix

namespace Base58

theorem symbol_of_digit? {c : Char} {d : Nat} (h : digit? c = some d) : symbol d = c ∧ d < 58 := by
  obtain ⟨hd, hget, -⟩ := List.idxOf?_eq_some_iff.1 h
  refine ⟨?_, hd⟩
  rw [symbol, List.getD_eq_getElem?_getD, List.getElem?_eq_getElem hd, hget]
  rfl

/-- The digits of a text are those of its characters. -/
theorem symbols_of_digits {cs : List Char} {ds : List Nat} (h : cs.mapM digit? = some ds) :
    ds.map symbol = cs ∧ ∀ d ∈ ds, d < 58 := by
  induction cs generalizing ds with
  | nil =>
    cases h
    exact ⟨rfl, by simp⟩
  | cons c cs ih =>
    rw [List.mapM_cons, Option.bind_eq_bind, Option.bind_eq_some_iff] at h
    obtain ⟨d, hd, hrest⟩ := h
    rw [Option.bind_eq_bind, Option.bind_eq_some_iff] at hrest
    obtain ⟨ds', hds', hcons⟩ := hrest
    cases hcons
    obtain ⟨hsymbol, hlt⟩ := symbol_of_digit? hd
    obtain ⟨hsymbols, hlts⟩ := ih hds'
    exact ⟨by rw [List.map_cons, hsymbol, hsymbols], by simpa using ⟨hlt, hlts⟩⟩

theorem takeWhile_zeros (ds : List Nat) :
    ds.takeWhile (· == 0) = List.replicate (ds.takeWhile (· == 0)).length 0 := by
  refine List.eq_replicate_iff.2 ⟨rfl, fun d hd => ?_⟩
  have hzero := List.mem_takeWhile_imp hd
  simpa using hzero

/-- The octets of a number count as it does, and they begin with no zero. -/
theorem octets_of_number (n : Nat) :
    let bytes := (Radix.digits 256 n).map UInt8.ofNat
    bytes.map UInt8.toNat = Radix.digits 256 n ∧ bytes.takeWhile (· == 0) = [] := by
  intro bytes
  have hlt (d : Nat) (hd : d ∈ Radix.digits 256 n) : (UInt8.ofNat d).toNat = d := by
    rw [UInt8.toNat_ofNat', Nat.mod_eq_of_lt (Radix.lt_of_mem_digits (by omega) hd)]
  refine ⟨?_, ?_⟩
  · rw [List.map_map]
    exact (List.map_congr_left hlt).trans (List.map_id _)
  · cases hdigits : Radix.digits 256 n with
    | nil => simp [bytes, hdigits]
    | cons d ds =>
      have hd : (UInt8.ofNat d == 0) = false := by
        refine beq_false_of_ne fun hzero => Radix.ne_zero_of_digits (by omega) hdigits ?_
        rw [← hlt d (by simp [hdigits]), hzero]
        rfl
      simp [bytes, hdigits, hd]

/-- What was read is written as it was. -/
theorem encode_of_decode {text : String} {bytes : List UInt8} (h : decode text = some bytes) :
    encode bytes = text := by
  unfold decode at h
  rw [Option.bind_eq_bind, Option.bind_eq_some_iff] at h
  obtain ⟨ds, hds, hbytes⟩ := h
  cases hbytes
  obtain ⟨hsymbols, hlt⟩ := symbols_of_digits hds
  obtain ⟨hnumber, hhead⟩ := octets_of_number (Radix.value 58 ds)
  let zeros := ds.takeWhile (· == 0)
  have htake : (List.replicate zeros.length (0 : UInt8) ++
      (Radix.digits 256 (Radix.value 58 ds)).map UInt8.ofNat).takeWhile (· == 0) =
      List.replicate zeros.length 0 := by
    rw [List.takeWhile_append_of_pos (by simp), hhead, List.append_nil]
  have hvalue : Radix.value 256 ((List.replicate zeros.length (0 : UInt8) ++
      (Radix.digits 256 (Radix.value 58 ds)).map UInt8.ofNat).map UInt8.toNat) =
      Radix.value 58 ds := by
    rw [List.map_append, List.map_replicate, hnumber, UInt8.toNat_zero,
      Radix.value_replicate_append, Radix.value_digits (by omega)]
  have hzeros : List.replicate zeros.length '1' = zeros.map symbol := by
    have hsymbol : symbol 0 = '1' := rfl
    rw [show zeros = List.replicate zeros.length 0 from takeWhile_zeros ds, List.map_replicate,
      List.length_replicate, hsymbol]
  -- The octets have as many leading zeros as the text, and their number is that of the text.
  unfold encode
  simp only
  rw [htake, hvalue, List.length_replicate, Radix.digits_value (by omega) hlt, hzeros,
    ← List.map_append, List.takeWhile_append_dropWhile, hsymbols]
  exact String.ofList_toList

end Base58

/-- A text of exactly so many octets is the text of those octets. -/
theorem Octets.toBase58_of_octets {n limit : Nat} {text : String} {a : Octets n}
    (h : Base58.octets n limit text = .ok a) : a.toBase58 = text := by
  unfold Base58.octets at h
  split at h
  · cases h
  · split at h
    · cases h
    · next bytes hbytes =>
      split at h
      · cases h
      · next a' ha' =>
        cases h
        rw [Octets.toBase58, Octets.ofList?_eq_some_iff.1 ha', Base58.encode_of_decode hbytes]

end ClusterProbe
