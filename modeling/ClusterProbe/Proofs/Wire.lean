import ClusterProbe.Proofs.Transaction

/-!
# The wire form of transactions

A transaction can be read back from its octets: each part of it shows where it ends, so that two
transactions with the same beginning are the same.  Base64 text stands for one list of octets alone,
and so for one transaction.
-/

namespace ClusterProbe

/-! ## Encodings that show where they end -/

/-- Whatever follows it, an encoded item can be told from every other one. -/
def SelfDelimiting {α : Type} (encode : α → List UInt8) : Prop :=
  ∀ ⦃a b : α⦄ ⦃rest rest' : List UInt8⦄, encode a ++ rest = encode b ++ rest' → a = b ∧ rest = rest'

namespace SelfDelimiting

variable {α : Type} {encode : α → List UInt8}

/-- An item is no proper beginning of another one. -/
theorem prefix_iff (h : SelfDelimiting encode) {a b : α} : encode a <+: encode b ↔ a = b := by
  constructor
  · rintro ⟨rest, hrest⟩
    rw [← List.append_nil (encode b)] at hrest
    exact (h hrest).1
  · rintro rfl
    exact List.prefix_rfl

/-- As many items on both sides are the same ones. -/
theorem flatMap (h : SelfDelimiting encode) {xs ys : List α} {rest rest' : List UInt8}
    (hlength : xs.length = ys.length)
    (heq : xs.flatMap encode ++ rest = ys.flatMap encode ++ rest') : xs = ys ∧ rest = rest' := by
  induction xs generalizing ys with
  | nil =>
    obtain rfl := List.eq_nil_of_length_eq_zero hlength.symm
    exact ⟨rfl, heq⟩
  | cons x xs ih =>
    cases ys with
    | nil => cases hlength
    | cons y ys =>
      rw [List.flatMap_cons, List.flatMap_cons, List.append_assoc, List.append_assoc] at heq
      obtain ⟨rfl, htail⟩ := h heq
      obtain ⟨rfl, hrest⟩ := ih (Nat.succ.inj hlength) htail
      exact ⟨rfl, hrest⟩

end SelfDelimiting

theorem Octets.selfDelimiting (n : Nat) : SelfDelimiting (Octets.toList (n := n)) := by
  intro a b rest rest' h
  obtain ⟨hab, hrest⟩ := List.append_inj h (a.length_toList.trans b.length_toList.symm)
  exact ⟨Octets.ext hab, hrest⟩

namespace CompactLength

theorem encode_of_lt {n : Nat} (h : n < 128) : encode n = [UInt8.ofNat n] := by
  rw [encode, if_pos h]

theorem encode_of_le {n : Nat} (h : 128 ≤ n) :
    encode n = UInt8.ofNat (n % 128 + 128) :: encode (n / 128) := by
  rw [encode, if_neg (Nat.not_lt.2 h)]

theorem ofNat_inj {m n : Nat} (hm : m < 256) (hn : n < 256) :
    UInt8.ofNat m = UInt8.ofNat n ↔ m = n := by
  rw [← UInt8.toNat_inj, UInt8.toNat_ofNat', UInt8.toNat_ofNat', Nat.mod_eq_of_lt hm,
    Nat.mod_eq_of_lt hn]

/-- The top bit of each octet tells whether another one follows. -/
theorem selfDelimiting : SelfDelimiting encode := by
  intro m n rest rest' h
  induction m using Nat.strongRecOn generalizing n with
  | ind m ih =>
    by_cases hm : m < 128 <;> by_cases hn : n < 128
    · rw [encode_of_lt hm, encode_of_lt hn, List.singleton_append, List.singleton_append,
        List.cons.injEq, ofNat_inj (by omega) (by omega)] at h
      exact h
    · -- One of them ends where the other one goes on.
      rw [encode_of_lt hm, encode_of_le (Nat.not_lt.1 hn), List.singleton_append, List.cons_append,
        List.cons.injEq, ofNat_inj (by omega) (by omega)] at h
      omega
    · rw [encode_of_le (Nat.not_lt.1 hm), encode_of_lt hn, List.singleton_append, List.cons_append,
        List.cons.injEq, ofNat_inj (by omega) (by omega)] at h
      omega
    · rw [encode_of_le (Nat.not_lt.1 hm), encode_of_le (Nat.not_lt.1 hn), List.cons_append,
        List.cons_append, List.cons.injEq, ofNat_inj (by omega) (by omega)] at h
      obtain ⟨hlow, hmore⟩ := h
      obtain ⟨hhigh, hrest⟩ := ih (m / 128) (by omega) hmore
      exact ⟨by omega, hrest⟩

theorem selfDelimiting_encodeList : SelfDelimiting encodeList := by
  intro a b rest rest' h
  unfold encodeList at h
  rw [List.append_assoc, List.append_assoc] at h
  obtain ⟨hlength, h⟩ := selfDelimiting h
  exact List.append_inj h hlength

/-- A list after its length shows where it ends if its items do. -/
theorem append_flatMap {α : Type} {item : α → List UInt8} (hitem : SelfDelimiting item)
    {xs ys : List α} {rest rest' : List UInt8}
    (h : encode xs.length ++ (xs.flatMap item ++ rest) =
      encode ys.length ++ (ys.flatMap item ++ rest')) : xs = ys ∧ rest = rest' := by
  obtain ⟨hlength, h⟩ := selfDelimiting h
  exact hitem.flatMap hlength h

end CompactLength

/-! ## Messages and transactions -/

theorem Message.Call.selfDelimiting_octets : SelfDelimiting Message.Call.octets := by
  intro c c' rest rest' h
  obtain ⟨index, accounts, data⟩ := c
  obtain ⟨index', accounts', data'⟩ := c'
  simp only [octets, List.cons_append, List.append_assoc, List.cons.injEq] at h
  obtain ⟨rfl, haccounts⟩ := h
  obtain ⟨rfl, hdata⟩ := CompactLength.selfDelimiting_encodeList haccounts
  obtain ⟨rfl, hrest⟩ := CompactLength.selfDelimiting_encodeList hdata
  exact ⟨rfl, hrest⟩

theorem Message.selfDelimiting_octets : SelfDelimiting Message.octets := by
  intro m m' rest rest' h
  obtain ⟨⟨signed, readonlySigned, readonlyUnsigned⟩, keys, hash, calls⟩ := m
  obtain ⟨⟨signed', readonlySigned', readonlyUnsigned'⟩, keys', hash', calls'⟩ := m'
  simp only [octets, List.cons_append, List.nil_append, List.append_assoc, List.cons.injEq] at h
  obtain ⟨rfl, rfl, rfl, hkeys⟩ := h
  obtain ⟨rfl, hhash⟩ := CompactLength.append_flatMap (Octets.selfDelimiting 32) hkeys
  obtain ⟨rfl, hcalls⟩ := Octets.selfDelimiting 32 hhash
  obtain ⟨rfl, hrest⟩ := CompactLength.append_flatMap Call.selfDelimiting_octets hcalls
  exact ⟨rfl, hrest⟩

theorem Transaction.selfDelimiting_octets : SelfDelimiting Transaction.octets := by
  intro t t' rest rest' h
  obtain ⟨signatures, message⟩ := t
  obtain ⟨signatures', message'⟩ := t'
  simp only [octets, List.append_assoc] at h
  obtain ⟨rfl, hmessage⟩ := CompactLength.append_flatMap (Octets.selfDelimiting 64) h
  obtain ⟨rfl, hrest⟩ := Message.selfDelimiting_octets hmessage
  exact ⟨rfl, hrest⟩

/-! ## Base64 text -/

namespace Base64

/-- The six bits that a symbol stands for; what fills a group up counts as one symbol more. -/
def value (c : Char) : Nat := (alphabet ++ ['=']).idxOf c

theorem value_symbol {n : Nat} (h : n ≤ 64) : value (symbol n) = n := by
  have hvalue : ∀ n < 65, value (symbol n) = n := by decide +kernel
  exact hvalue n (Nat.lt_succ_of_le h)

theorem symbols_eq_append : ∀ (octets : List UInt8) (before : List Char),
    symbols before octets = symbols [] octets ++ before
  | [], _ => rfl
  | [_], _ => rfl
  | [_, _], _ => rfl
  | a :: b :: c :: rest, before => by
    rw [symbols, symbols, symbols_eq_append rest, symbols_eq_append rest [_, _, _, _],
      List.append_assoc]
    rfl

/-- The first group is written apart from the others. -/
theorem symbols_eq_drop_append_take : ∀ octets : List UInt8,
    symbols [] octets = symbols [] (octets.drop 3) ++ symbols [] (octets.take 3)
  | [] => rfl
  | [_] => rfl
  | [_, _] => rfl
  | _ :: _ :: _ :: rest => symbols_eq_append rest _

theorem length_symbols_take : ∀ {octets : List UInt8}, octets ≠ [] →
    (symbols [] (octets.take 3)).length = 4
  | [_], _ => rfl
  | [_, _], _ => rfl
  | _ :: _ :: _ :: _, _ => rfl

/-- The six bits behind each symbol of a group, last one first; 64 stands for a fill. -/
def sextets : List UInt8 → List Nat
  | [] => []
  | [a] => [64, 64, a.toNat % 4 * 16, a.toNat / 4]
  | [a, b] => [64, b.toNat % 16 * 4, a.toNat % 4 * 16 + b.toNat / 16, a.toNat / 4]
  | a :: b :: c :: _ =>
    [c.toNat % 64, b.toNat % 16 * 4 + c.toNat / 64, a.toNat % 4 * 16 + b.toNat / 16, a.toNat / 4]

theorem symbols_take : ∀ octets : List UInt8,
    symbols [] (octets.take 3) = (sextets octets).map symbol
  | [] => rfl
  | [_] => rfl
  | [_, _] => rfl
  | _ :: _ :: _ :: _ => rfl

theorem le_of_mem_sextets {octets : List UInt8} {n : Nat} (h : n ∈ sextets octets) : n ≤ 64 := by
  have hlt (b : UInt8) : b.toNat < 256 := b.toNat_lt
  unfold sextets at h
  split at h
  · cases h
  · next a =>
    have ha := hlt a
    simp only [List.mem_cons, List.not_mem_nil, or_false] at h
    omega
  · next a b =>
    have ha := hlt a
    have hb := hlt b
    simp only [List.mem_cons, List.not_mem_nil, or_false] at h
    omega
  · next a b c _ =>
    have ha := hlt a
    have hb := hlt b
    have hc := hlt c
    simp only [List.mem_cons, List.not_mem_nil, or_false] at h
    omega

/-- The octets of a group are read back from its sextets. -/
theorem take_eq_of_sextets {xs ys : List UInt8} (h : sextets xs = sextets ys) :
    xs.take 3 = ys.take 3 := by
  have hlt (b : UInt8) : b.toNat < 256 := b.toNat_lt
  -- Groups of different lengths are not filled up alike.
  rcases xs with _ | ⟨a, _ | ⟨b, _ | ⟨c, xs⟩⟩⟩ <;>
    rcases ys with _ | ⟨a', _ | ⟨b', _ | ⟨c', ys⟩⟩⟩ <;>
    simp only [sextets, List.cons.injEq, reduceCtorEq, and_true] at h <;>
    try omega
  · rfl
  · have ha : a.toNat = a'.toNat := by omega
    rw [UInt8.toNat_inj.1 ha]
  · have hb := hlt b
    have hb' := hlt b'
    have ha : a.toNat = a'.toNat := by omega
    have hb : b.toNat = b'.toNat := by omega
    rw [UInt8.toNat_inj.1 ha, UInt8.toNat_inj.1 hb]
  · have hb := hlt b
    have hb' := hlt b'
    have hc := hlt c
    have hc' := hlt c'
    have ha : a.toNat = a'.toNat := by omega
    have hb : b.toNat = b'.toNat := by omega
    have hc : c.toNat = c'.toNat := by omega
    rw [UInt8.toNat_inj.1 ha, UInt8.toNat_inj.1 hb, UInt8.toNat_inj.1 hc]
    rfl

/-- A group of symbols is read back. -/
theorem map_value_symbols_take (octets : List UInt8) :
    (symbols [] (octets.take 3)).map value = sextets octets := by
  rw [symbols_take, List.map_map]
  refine Eq.trans (List.map_congr_left fun n hn => ?_) (List.map_id _)
  exact value_symbol (le_of_mem_sextets hn)

theorem symbols_eq_nil_iff {octets : List UInt8} : symbols [] octets = [] ↔ octets = [] := by
  refine ⟨fun h => ?_, fun h => h ▸ rfl⟩
  by_contra hne
  rw [symbols_eq_drop_append_take, List.append_eq_nil_iff] at h
  have hlength := length_symbols_take hne
  rw [h.2] at hlength
  cases hlength

/-- A text is that of one list of octets alone. -/
theorem encode_inj {xs ys : List UInt8} : encode xs = encode ys ↔ xs = ys := by
  refine ⟨fun h => ?_, congrArg encode⟩
  have hsymbols : symbols [] xs = symbols [] ys :=
    List.reverse_injective (String.ofList_injective h)
  clear h
  -- The text is read in groups, from its beginning on.
  induction hn : xs.length using Nat.strongRecOn generalizing xs ys with
  | ind n ih =>
    by_cases hxs : xs = []
    · subst hxs
      exact (symbols_eq_nil_iff.1 hsymbols.symm).symm
    have hys : ys ≠ [] := fun hys =>
      hxs (symbols_eq_nil_iff.1 (hsymbols.trans (symbols_eq_nil_iff.2 hys)))
    rw [symbols_eq_drop_append_take xs, symbols_eq_drop_append_take ys] at hsymbols
    obtain ⟨hrest, hgroup⟩ := List.append_inj' hsymbols
      ((length_symbols_take hxs).trans (length_symbols_take hys).symm)
    have htake : xs.take 3 = ys.take 3 := by
      refine take_eq_of_sextets ?_
      rw [← map_value_symbols_take, hgroup, map_value_symbols_take]
    have hshort : (xs.drop 3).length < n := by
      have hpos := List.length_pos_iff.2 hxs
      rw [List.length_drop]
      omega
    rw [← List.take_append_drop 3 xs, ← List.take_append_drop 3 ys, htake, ih _ hshort hrest rfl]

end Base64

namespace Transaction

/-- A transaction is read back from its text, and no other transaction's octets begin with its own.
Those of a transaction that the payer alone signs are the number of the signatures, the signature,
and the octets that were signed; there is one for every instruction that nobody but the payer has to
sign, as long as its lists have compact lengths and it mentions no more than 256 keys. -/
theorem wire_readable :
    (∀ t t' : Transaction, (t.wire = t'.wire ↔ t = t') ∧ (t.octets <+: t'.octets ↔ t = t')) ∧
    ∀ (payer : Keypair) (blockhash : BlockHash) (i : Instruction), i.SignedBy payer.publicKey →
      (i.named payer.publicKey).dedup.length ≤ 256 →
      i.accounts.length ≤ 65535 → i.data.length ≤ 65535 →
      ∃ t, signedBy payer blockhash i = .ok t ∧ ∃ signature,
        t.signatures = [signature] ∧ signature = payer.sign t.message.octets ∧
        t.octets = CompactLength.encode 1 ++ signature.toList ++ t.message.octets := by
  refine ⟨fun t t' => ⟨⟨fun h => ?_, congrArg wire⟩, selfDelimiting_octets.prefix_iff⟩,
    fun payer blockhash i hsigned hnamed haccounts hdata => ?_⟩
  · exact selfDelimiting_octets.prefix_iff.1 (Base64.encode_inj.1 h ▸ List.prefix_rfl)
  · refine ⟨_, signedBy_eq_layout blockhash hsigned hnamed haccounts hdata, _, rfl, rfl, ?_⟩
    rw [octets, List.length_singleton, List.flatMap_singleton]

/-- An instruction whose lists have lengths of two and of three octets. -/
theorem wire_readable_long :
    let payer : Keypair := .ofSeed (.replicate 32 0)
    let i : Instruction := ⟨.replicate 32 1, List.replicate 300 ⟨.replicate 32 2, false, true⟩,
      List.replicate 20000 0⟩
    i.SignedBy payer.publicKey ∧ (i.named payer.publicKey).dedup.length ≤ 256 ∧
    i.accounts.length ≤ 65535 ∧ i.data.length ≤ 65535 ∧
    ∃ t, signedBy payer (.replicate 32 9) i = .ok t ∧ ∃ signature,
      t.signatures = [signature] ∧ signature = payer.sign t.message.octets ∧
      t.octets = CompactLength.encode 1 ++ signature.toList ++ t.message.octets := by
  intro payer i
  have hsigned : i.SignedBy payer.publicKey := fun a ha hsigner => by
    rw [List.eq_of_mem_replicate ha] at hsigner
    cases hsigner
  -- All the accounts are one, so that there are three keys.
  have hnamed : (i.named payer.publicKey).dedup.length ≤ 256 := by
    have hsub : (i.named payer.publicKey).dedup ⊆
        [payer.publicKey, .replicate 32 1, .replicate 32 2] := by
      intro key hkey
      rw [List.mem_dedup, Instruction.named, List.map_replicate, List.mem_cons,
        List.mem_cons] at hkey
      rcases hkey with rfl | rfl | hkey
      · exact List.mem_cons_self
      · exact List.mem_cons_of_mem _ List.mem_cons_self
      · rw [List.eq_of_mem_replicate hkey]
        exact List.mem_cons_of_mem _ (List.mem_cons_of_mem _ List.mem_cons_self)
    have hlength := ((List.nodup_dedup _).subperm hsub).length_le
    exact Nat.le_trans hlength (Nat.le_of_ble_eq_true rfl)
  have haccounts : i.accounts.length = 300 := List.length_replicate
  have hdata : i.data.length = 20000 := List.length_replicate
  exact ⟨hsigned, hnamed, by omega, by omega,
    wire_readable.2 payer _ i hsigned hnamed (by omega) (by omega)⟩

end Transaction

end ClusterProbe
