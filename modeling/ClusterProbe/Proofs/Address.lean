import ClusterProbe.Probe.Course
import ClusterProbe.Proofs.Base58
import Mathlib.Data.Nat.Digits.Lemmas
import Mathlib.Data.String.Basic

/-!
# Addresses

The address of a program is the base58 text of its key.  Keys and their texts belong to each other
one to one, no text of a key is refused for its length, and whatever is no text of a key is refused
for what is wrong with it.
-/

namespace ClusterProbe

/-! ## Numbers -/

namespace Radix

theorem value_eq_ofDigits (b : Nat) (ds : List Nat) : value b ds = Nat.ofDigits b ds.reverse := by
  induction ds using List.reverseRecOn with
  | nil => rfl
  | append_singleton ds d ih =>
    rw [value_concat, ih, List.reverse_concat, Nat.ofDigits_cons, Nat.mul_comm, Nat.add_comm]

theorem digits_eq_reverse {b : Nat} (hb : 2 ≤ b) (n : Nat) : digits b n = (b.digits n).reverse := by
  induction n using Nat.strongRecOn with
  | ind n ih =>
    rcases Nat.eq_zero_or_pos n with rfl | hn
    · rw [digits_zero, Nat.digits_zero, List.reverse_nil]
    · have hdiv : n / b < n := Nat.div_lt_self hn (by omega)
      rw [digits_of_pos hb hn, ih _ hdiv, Nat.digits_def' (by omega) hn, List.reverse_cons]

theorem takeWhile_digits {b : Nat} (hb : 2 ≤ b) (n : Nat) :
    (digits b n).takeWhile (· == 0) = [] := by
  cases hdigits : digits b n with
  | nil => rfl
  | cons d ds =>
    have hd : (d == 0) = false := beq_false_of_ne (ne_zero_of_digits hb hdigits)
    rw [List.takeWhile_cons, hd, if_neg Bool.false_ne_true]

end Radix

/-! ## Texts -/

namespace Base58

/-- The text stands for the octets: it begins with as many ones as they do with zeros, and its
characters are the digits, in base 58, of the number that the octets are in base 256. -/
def StandsFor (text : String) (octets : List UInt8) : Prop :=
  ∃ digits : List Nat, digits.map symbol = text.toList ∧ (∀ d ∈ digits, d < 58) ∧
    (digits.takeWhile (· == 0)).length = (octets.takeWhile (· == 0)).length ∧
    Nat.ofDigits 58 digits.reverse = Nat.ofDigits 256 (octets.map UInt8.toNat).reverse

/-- The digits of the text of some octets. -/
def written (octets : List UInt8) : List Nat :=
  List.replicate (octets.takeWhile (· == 0)).length 0 ++
    Radix.digits 58 (Radix.value 256 (octets.map UInt8.toNat))

theorem toList_encode (octets : List UInt8) :
    (encode octets).toList = (written octets).map symbol := by
  have hsymbol : symbol 0 = '1' := rfl
  rw [encode, String.toList_ofList, written, List.map_append, List.map_replicate, hsymbol]

theorem lt_of_mem_written {octets : List UInt8} {d : Nat} (h : d ∈ written octets) : d < 58 := by
  rcases List.mem_append.1 h with h | h
  · rw [List.eq_of_mem_replicate h]
    omega
  · exact Radix.lt_of_mem_digits (by omega) h

theorem takeWhile_written (octets : List UInt8) :
    (written octets).takeWhile (· == 0) =
      List.replicate (octets.takeWhile (· == 0)).length 0 := by
  have hzeros : ∀ d ∈ List.replicate (octets.takeWhile (· == 0)).length 0, (d == 0) = true := by
    intro d hd
    rw [List.eq_of_mem_replicate hd]
    rfl
  rw [written, List.takeWhile_append_of_pos hzeros, Radix.takeWhile_digits (by omega),
    List.append_nil]

theorem value_written (octets : List UInt8) :
    Radix.value 58 (written octets) = Radix.value 256 (octets.map UInt8.toNat) := by
  rw [written, Radix.value_replicate_append, Radix.value_digits (by omega)]

theorem standsFor_encode (octets : List UInt8) : StandsFor (encode octets) octets := by
  refine ⟨written octets, (toList_encode octets).symm, fun d hd => lt_of_mem_written hd, ?_, ?_⟩
  · rw [takeWhile_written, List.length_replicate]
  · rw [← Radix.value_eq_ofDigits, ← Radix.value_eq_ofDigits, value_written]

/-- Every octet string has one text. -/
theorem standsFor_iff {text : String} {octets : List UInt8} :
    StandsFor text octets ↔ encode octets = text := by
  constructor
  · rintro ⟨ds, hsymbols, hlt, hzeros, hnumber⟩
    rw [← Radix.value_eq_ofDigits, ← Radix.value_eq_ofDigits] at hnumber
    -- Zeros and number are those of the digits, so that the octets are written with the same digits.
    have hwritten : written octets = ds := by
      rw [written, ← hnumber, ← hzeros, Radix.digits_value (by omega) hlt, ← takeWhile_zeros,
        List.takeWhile_append_dropWhile]
    rw [← String.toList_inj, toList_encode, hwritten, hsymbols]
  · rintro rfl
    exact standsFor_encode octets

theorem mapM_digit?_symbols {ds : List Nat} (h : ∀ d ∈ ds, d < 58) :
    (ds.map symbol).mapM digit? = some ds := by
  induction ds with
  | nil => rfl
  | cons d ds ih =>
    have hd : digit? (symbol d) = some d := digit?_symbol (h d List.mem_cons_self)
    have hds : (ds.map symbol).mapM digit? = some ds := ih fun e he => h e (List.mem_cons_of_mem d he)
    rw [List.map_cons, List.mapM_cons, hd, hds]
    rfl

theorem replicate_append_dropWhile (octets : List UInt8) :
    List.replicate (octets.takeWhile (· == 0)).length 0 ++ octets.dropWhile (· == 0) = octets := by
  have hzeros : List.replicate (octets.takeWhile (· == 0)).length 0 =
      octets.takeWhile (· == 0) := by
    refine (List.eq_replicate_iff.2 ⟨rfl, fun octet hoctet => ?_⟩).symm
    have hzero := List.mem_takeWhile_imp hoctet
    simpa using hzero
  rw [hzeros, List.takeWhile_append_dropWhile]

theorem lt_of_mem_map_toNat {octets : List UInt8} {d : Nat} (h : d ∈ octets.map UInt8.toNat) :
    d < 256 := by
  obtain ⟨octet, -, rfl⟩ := List.mem_map.1 h
  exact octet.toNat_lt

/-- Reading the text of some octets gives the octets. -/
theorem decode_encode (octets : List UInt8) : decode (encode octets) = some octets := by
  -- The number gives back the octets after the leading zeros.
  have hnumber : (Radix.digits 256 (Radix.value 256 (octets.map UInt8.toNat))).map UInt8.ofNat =
      octets.dropWhile (· == 0) := by
    have hzero : ((· == 0) ∘ UInt8.toNat) = fun octet : UInt8 => octet == 0 := by
      funext octet
      rw [Function.comp_apply, Bool.eq_iff_iff, beq_iff_eq, beq_iff_eq, ← UInt8.toNat_inj]
      rfl
    have hid : UInt8.ofNat ∘ UInt8.toNat = id := by
      funext octet
      exact UInt8.ofNat_toNat
    rw [Radix.digits_value (by omega) fun d hd => lt_of_mem_map_toNat hd, List.dropWhile_map, hzero,
      List.map_map, hid, List.map_id]
  have hread : (encode octets).toList.mapM digit? = some (written octets) := by
    rw [toList_encode, mapM_digit?_symbols fun d hd => lt_of_mem_written hd]
  rw [decode, hread, Option.bind_eq_bind, Option.bind_some]
  show some _ = some octets
  rw [takeWhile_written, value_written, hnumber, List.length_replicate, replicate_append_dropWhile]

/-- Reading and writing are inverse to each other. -/
theorem decode_eq_some_iff {text : String} {octets : List UInt8} :
    decode text = some octets ↔ encode octets = text :=
  ⟨encode_of_decode, fun h => h ▸ decode_encode octets⟩

theorem mapM_digit?_eq_none_iff {cs : List Char} :
    cs.mapM digit? = none ↔ ∃ c ∈ cs, c ∉ alphabet := by
  induction cs with
  | nil => simp
  | cons c cs ih =>
    have hc : digit? c = none ↔ c ∉ alphabet := List.idxOf?_eq_none_iff
    rw [List.mapM_cons, Option.bind_eq_bind, List.exists_mem_cons_iff, ← hc, ← ih]
    cases digit? c with
    | none => simp
    | some d => cases cs.mapM digit? <;> simp

/-- A text is read unless one of its characters is outside the alphabet. -/
theorem decode_eq_none_iff {text : String} :
    decode text = none ↔ ∃ c ∈ text.toList, c ∉ alphabet := by
  rw [← mapM_digit?_eq_none_iff, decode]
  cases text.toList.mapM digit? <;> simp

theorem utf8Len_symbols {ds : List Nat} (h : ∀ d ∈ ds, d < 58) :
    String.utf8Len (ds.map symbol) = ds.length := by
  have hsize : ∀ d < 58, (symbol d).utf8Size = 1 := by decide
  induction ds with
  | nil => rfl
  | cons d ds ih =>
    rw [List.map_cons, String.utf8Len_cons, hsize d (h d List.mem_cons_self),
      ih fun e he => h e (List.mem_cons_of_mem d he), List.length_cons]

/-- Leading zeros add nothing to the number of some octets. -/
theorem value_lt_pow_dropWhile (octets : List UInt8) :
    Radix.value 256 (octets.map UInt8.toNat) < 256 ^ (octets.dropWhile (· == 0)).length := by
  let rest := octets.dropWhile (· == 0)
  have hvalue : Radix.value 256 (octets.map UInt8.toNat) =
      Radix.value 256 (rest.map UInt8.toNat) := by
    conv_lhs => rw [← replicate_append_dropWhile octets]
    rw [List.map_append, List.map_replicate, UInt8.toNat_zero, Radix.value_replicate_append]
  have hpow : Nat.ofDigits 256 (rest.map UInt8.toNat).reverse <
      256 ^ (rest.map UInt8.toNat).reverse.length :=
    Nat.ofDigits_lt_base_pow_length (by omega) fun d hd =>
      lt_of_mem_map_toNat (List.mem_reverse.1 hd)
  rw [hvalue, Radix.value_eq_ofDigits]
  rwa [List.length_reverse, List.length_map] at hpow

/-- A text is long enough for all octets of a length if it is for the largest number that they
make, whatever zeros they begin with. -/
theorem utf8ByteSize_encode_le {n limit : Nat} (h : 256 ^ n ≤ 58 ^ limit) {octets : List UInt8}
    (hlength : octets.length = n) : (encode octets).utf8ByteSize ≤ limit := by
  let zeros := (octets.takeWhile (· == 0)).length
  let rest := octets.dropWhile (· == 0)
  have hn : zeros + rest.length = n := by
    rw [← hlength, ← List.length_append, List.takeWhile_append_dropWhile]
  have hlimit : n ≤ limit := by
    have hpow : 58 ^ n ≤ 58 ^ limit := (Nat.pow_le_pow_left (by omega) n).trans h
    exact (Nat.pow_le_pow_iff_right (by omega)).1 hpow
  -- A zero takes an octet from the number and a digit from the room for it, and the octet counts
  -- for more.
  have hroom : 256 ^ rest.length ≤ 58 ^ (limit - zeros) := by
    have hmul : 256 ^ rest.length * 58 ^ zeros ≤ 58 ^ (limit - zeros) * 58 ^ zeros := calc
      256 ^ rest.length * 58 ^ zeros ≤ 256 ^ rest.length * 256 ^ zeros :=
        Nat.mul_le_mul_left _ (Nat.pow_le_pow_left (by omega) zeros)
      _ = 256 ^ n := by rw [← Nat.pow_add, Nat.add_comm, hn]
      _ ≤ 58 ^ limit := h
      _ = 58 ^ (limit - zeros) * 58 ^ zeros := by rw [← Nat.pow_add, Nat.sub_add_cancel (by omega)]
    exact Nat.le_of_mul_le_mul_right hmul (Nat.pow_pos (by omega))
  have hnumber : Radix.value 256 (octets.map UInt8.toNat) < 256 ^ rest.length :=
    value_lt_pow_dropWhile octets
  have hdigits : (Radix.digits 58 (Radix.value 256 (octets.map UInt8.toNat))).length ≤
      limit - zeros := by
    rw [Radix.digits_eq_reverse (by omega), List.length_reverse,
      Nat.digits_length_le_iff (by omega)]
    omega
  have hlength : (written octets).length ≤ limit := by
    rw [written, List.length_append, List.length_replicate]
    omega
  have hsize : (encode octets).utf8ByteSize = (written octets).length := by
    rw [← String.ofList_toList (s := encode octets), String.utf8ByteSize_ofList, toList_encode,
      utf8Len_symbols fun d hd => lt_of_mem_written hd]
  omega

/-- What is wrong with a text that is the text of no octets of a length. -/
def refusal (limit : Nat) (text : String) : Fault :=
  if limit < text.utf8ByteSize then .wrongSize
  else if text.toList.any (· ∉ alphabet) then .invalid
  else .wrongSize

variable {n limit : Nat} {text : String}

/-- Octets are read from their text alone. -/
theorem octets_eq_ok_iff (h : 256 ^ n ≤ 58 ^ limit) {a : Octets n} :
    octets n limit text = .ok a ↔ a.toBase58 = text := by
  refine ⟨Octets.toBase58_of_octets, ?_⟩
  rintro rfl
  have hsize : a.toBase58.utf8ByteSize ≤ limit := utf8ByteSize_encode_le h a.length_toList
  have hread : decode a.toBase58 = some a.toList := decode_eq_some_iff.2 rfl
  rw [octets, if_neg (by omega), hread]
  simp only [Octets.ofList?_toList]

theorem octets_eq_error (h : ∀ a : Octets n, a.toBase58 ≠ text) :
    octets n limit text = .error (refusal limit text) := by
  unfold octets refusal
  by_cases hsize : limit < text.utf8ByteSize
  · rw [if_pos hsize, if_pos hsize]
  rw [if_neg hsize, if_neg hsize]
  have houtside : text.toList.any (· ∉ alphabet) = true ↔ decode text = none := by
    simp [decode_eq_none_iff]
  cases hread : decode text with
  | none => rw [if_pos (houtside.2 hread)]
  | some bytes =>
    have hinside : ¬ text.toList.any (· ∉ alphabet) = true := by
      rw [houtside, hread]
      exact Option.some_ne_none bytes
    rw [if_neg hinside]
    -- Octets of the right number would make the text theirs.
    cases hlength : Octets.ofList? n bytes with
    | none => simp only [hlength]
    | some a =>
      have hbytes : a.toList = bytes := Octets.ofList?_eq_some_iff.1 hlength
      have htext : a.toBase58 = text := by
        rw [Octets.toBase58, hbytes, decode_eq_some_iff.1 hread]
      exact absurd htext (h a)

end Base58

theorem Octets.toBase58_inj {n : Nat} {a b : Octets n} : a.toBase58 = b.toBase58 ↔ a = b := by
  refine ⟨fun h => ?_, congrArg _⟩
  have hoctets := congrArg Base58.decode h
  simp only [toBase58, Base58.decode_encode] at hoctets
  exact Octets.ext (Option.some.inj hoctets)

theorem Signature.ofBase58_eq_ok_iff {text : String} {signature : Signature} :
    Signature.ofBase58 text = .ok signature ↔ signature.toBase58 = text :=
  Base58.octets_eq_ok_iff (by norm_num)

/-! ## Programs -/

namespace Probe

/-- A key is no larger a number than its longest text. -/
theorem keys_le_texts : 256 ^ 32 ≤ 58 ^ 44 := by norm_num

theorem target_eq_ok_iff {config : Config} {program : PublicKey} :
    target config = .ok program ↔ program.toBase58 = config.address := by
  rw [← Base58.octets_eq_ok_iff keys_le_texts]
  show _ ↔ PublicKey.ofBase58 config.address = .ok program
  unfold target
  cases PublicKey.ofBase58 config.address <;> simp

/-- Every key is found under its text, which is never too long.  An address is found just if it
stands for the octets of a key, and it is then the text of that key, so that each key has one
address.  Every other address is refused, and shown as it is, for its length, for a character of it,
or for the number of its octets. -/
theorem target_canonical (config : Config) :
    (∀ program : PublicKey,
      target { config with address := program.toBase58 } = .ok program ∧
      program.toBase58.utf8ByteSize ≤ 44 ∧
      Base58.StandsFor program.toBase58 program.toList) ∧
    (∀ program : PublicKey,
      (target config = .ok program ↔ Base58.StandsFor config.address program.toList) ∧
      (target config = .ok program → program.toBase58 = config.address ∧
        ∀ other, target other = .ok program → other.address = config.address)) ∧
    ((∀ program : PublicKey, program.toBase58 ≠ config.address) →
      target config = .error (.badAddress config.address
        (if 44 < config.address.utf8ByteSize then .wrongSize
        else if config.address.toList.any (· ∉ Base58.alphabet) then .invalid
        else .wrongSize))) := by
  refine ⟨fun program => ⟨?_, ?_, ?_⟩, fun program => ⟨?_, fun hprogram => ⟨?_, ?_⟩⟩,
    fun hnone => ?_⟩
  · exact target_eq_ok_iff.2 rfl
  · exact Base58.utf8ByteSize_encode_le keys_le_texts program.length_toList
  · exact Base58.standsFor_encode program.toList
  · rw [target_eq_ok_iff, Base58.standsFor_iff]
    exact Iff.rfl
  · exact target_eq_ok_iff.1 hprogram
  · intro other hother
    rw [← target_eq_ok_iff.1 hother, target_eq_ok_iff.1 hprogram]
  · have hfault : PublicKey.ofBase58 config.address = .error (Base58.refusal 44 config.address) :=
      Base58.octets_eq_error hnone
    unfold target
    rw [hfault]
    rfl

end Probe

end ClusterProbe
