import ClusterProbe.Message
import Mathlib.Data.List.Dedup
import Mathlib.Data.List.Perm.Subperm

/-!
# The layout of a message

The message of an instruction that its payer alone signs names each key once, the payer first, then
the other keys that may be written, then those that may not.  Its header tells the three apart, and
its call names the program and the accounts by their places among the keys.  There is room for 256
keys, and every instruction with no more than that has such a message.
-/

namespace ClusterProbe

namespace Instruction

variable (i : Instruction)

/-- The keys that a message of the instruction has to name, each as often as it is mentioned. -/
def named (payer : PublicKey) : List PublicKey :=
  payer :: i.programId :: i.accounts.map (·.key)

/-- The instruction may write the account of the key. -/
def Writes (key : PublicKey) : Prop := ∃ a ∈ i.accounts, a.key = key ∧ a.writable = true

/-- Nobody but the payer has to sign. -/
def SignedBy (payer : PublicKey) : Prop := ∀ a ∈ i.accounts, a.signer = true → a.key = payer

end Instruction

namespace Message

/-- The header counts the key at a place among those that sign, which come first. -/
def Signs (m : Message) (place : Nat) : Prop := place < m.header.requiredSignatures.toNat

/-- The header counts the key at a place among those that may be written.  The read-only keys are
the last ones of those that sign, and the last ones of the others. -/
def Writes (m : Message) (place : Nat) : Prop :=
  if place < m.header.requiredSignatures.toNat then
    place < m.header.requiredSignatures.toNat - m.header.readonlySigned.toNat
  else place < m.accountKeys.length - m.header.readonlyUnsigned.toNat

/-- A message is the one of an instruction: it names the keys of the instruction and its payer and no
others, and its header and its only call say of them what the instruction says. -/
structure LaysOut (m : Message) (payer : PublicKey) (blockhash : BlockHash)
    (i : Instruction) : Prop where
  /-- The payer comes first, then the keys that are written and then those that are not, both in the
  order of their octets. -/
  classes : ∃ writables readonlys, m.accountKeys = payer :: (writables ++ readonlys) ∧
    (∀ key ∈ writables, i.Writes key) ∧ writables.Pairwise (·.toList < ·.toList) ∧
    (∀ key ∈ readonlys, ¬ i.Writes key) ∧ readonlys.Pairwise (·.toList < ·.toList)
  nodup : m.accountKeys.Nodup
  mem_iff : ∀ key, key ∈ m.accountKeys ↔ key ∈ i.named payer
  recentBlockhash : m.recentBlockhash = blockhash
  /-- The places in the only call are those of the program and of the accounts, in their order. -/
  call : ∃ call, m.calls = [call] ∧ call.data = i.data ∧
    m.accountKeys[call.programIdIndex.toNat]? = some i.programId ∧
    call.accounts.map (m.accountKeys[·.toNat]?) = i.accounts.map (some ·.key)
  signs_iff : ∀ place key, m.accountKeys[place]? = some key → (m.Signs place ↔ key = payer)
  writes_iff : ∀ place key, m.accountKeys[place]? = some key →
    (m.Writes place ↔ key = payer ∨ i.Writes key)

/-- The payer comes first among the keys of a compiled message, which keeps the block hash. -/
theorem head?_accountKeys_of_compile {payer : PublicKey} {blockhash : BlockHash}
    {instructions : List Instruction} {message : Message}
    (h : compile? payer blockhash instructions = some message) :
    message.accountKeys.head? = some payer ∧ message.recentBlockhash = blockhash := by
  unfold compile? at h
  simp only at h
  split at h
  · simp at h
  · obtain rfl := Option.some.inj h
    exact ⟨rfl, rfl⟩

/-! ## Classes of keys -/

section Classes

variable {payer key : PublicKey} {all : List AccountMeta} {i : Instruction} {signer writable : Bool}

theorem mem_keyClass :
    key ∈ keyClass payer all signer writable ↔ key ∈ all.map (·.key) ∧ key ≠ payer ∧
      ((∃ a ∈ all, a.key = key ∧ a.signer = true) ↔ signer = true) ∧
      ((∃ a ∈ all, a.key = key ∧ a.writable = true) ↔ writable = true) := by
  -- A class is picked by asking whether a key is in the list of those that ask for something.
  have hasked (asks : AccountMeta → Bool) :
      key ∈ SortedKeys.ofList ((all.filter asks).map (·.key)) ↔
        ∃ a ∈ all, a.key = key ∧ asks a = true := by
    rw [SortedKeys.mem_ofList, List.mem_map]
    simp only [List.mem_filter]
    exact exists_congr fun a => by tauto
  have hdecide (p : Prop) [Decidable p] (b : Bool) : decide p = b ↔ (p ↔ b = true) := by
    cases b <;> simp
  unfold keyClass
  rw [List.mem_filter, SortedKeys.mem_ofList, Bool.and_eq_true, Bool.and_eq_true, and_assoc,
    decide_eq_true_iff, decide_eq_true_iff, decide_eq_true_iff, hdecide, hdecide, hasked, hasked]

theorem pairwise_keyClass :
    (keyClass payer all signer writable).Pairwise (·.toList < ·.toList) :=
  (SortedKeys.pairwise_ofList _).filter _

theorem nodup_keyClass : (keyClass payer all signer writable).Nodup :=
  pairwise_keyClass.imp fun {a b} h (heq : a = b) => List.lt_irrefl _ (heq ▸ h)

theorem mentions_singleton : mentions [i] = ⟨i.programId, false, false⟩ :: i.accounts := by
  simp [mentions]

theorem exists_mention_writable :
    (∃ a ∈ mentions [i], a.key = key ∧ a.writable = true) ↔ i.Writes key := by
  simp [mentions_singleton, Instruction.Writes]

/-- Besides the payer nobody signs. -/
theorem keyClass_signer (h : i.SignedBy payer) :
    keyClass payer (mentions [i]) true writable = [] := by
  refine List.eq_nil_iff_forall_not_mem.2 fun key hmem => ?_
  obtain ⟨-, hne, hsigner, -⟩ := mem_keyClass.1 hmem
  obtain ⟨a, ha, rfl, hasks⟩ := hsigner.2 rfl
  rw [mentions_singleton, List.mem_cons] at ha
  rcases ha with rfl | ha
  · cases hasks
  · exact hne (h a ha hasks)

/-- The keys besides the payer, which do not sign, and of which the instruction writes all or none. -/
def others (payer : PublicKey) (i : Instruction) (writable : Bool) : List PublicKey :=
  keyClass payer (mentions [i]) false writable

theorem mem_others (h : i.SignedBy payer) :
    key ∈ others payer i writable ↔
      key ∈ i.named payer ∧ key ≠ payer ∧ (i.Writes key ↔ writable = true) := by
  rw [others, mem_keyClass, exists_mention_writable]
  have hnamed : key ≠ payer → (key ∈ (mentions [i]).map (·.key) ↔ key ∈ i.named payer) := by
    intro hne
    simp [mentions_singleton, Instruction.named, hne]
  -- Whoever asks a key to sign is an account of the instruction, and then the key is the payer's.
  have hnot : key ≠ payer →
      ((∃ a ∈ mentions [i], a.key = key ∧ a.signer = true) ↔ false = true) := by
    intro hne
    refine iff_of_false (fun ⟨a, ha, hkey, hasks⟩ => ?_) Bool.false_ne_true
    rw [mentions_singleton, List.mem_cons] at ha
    rcases ha with rfl | ha
    · cases hasks
    · exact hne (hkey ▸ h a ha hasks)
  constructor
  · rintro ⟨hmem, hne, -, hwrites⟩
    exact ⟨(hnamed hne).1 hmem, hne, hwrites⟩
  · rintro ⟨hmem, hne, hwrites⟩
    exact ⟨(hnamed hne).2 hmem, hne, hnot hne, hwrites⟩

end Classes

/-! ## The keys of a message -/

section Keys

variable {payer key : PublicKey} {blockhash : BlockHash} {i : Instruction}

/-- The keys of an instruction and its payer, each once and in the order of their classes. -/
def keysOf (payer : PublicKey) (i : Instruction) : List PublicKey :=
  payer :: (others payer i true ++ others payer i false)

theorem length_keysOf :
    (keysOf payer i).length = 1 + (others payer i true).length + (others payer i false).length := by
  rw [keysOf, List.length_cons, List.length_append]
  omega

theorem mem_keysOf (h : i.SignedBy payer) : key ∈ keysOf payer i ↔ key ∈ i.named payer := by
  rw [keysOf, List.mem_cons, List.mem_append, mem_others h, mem_others h]
  by_cases hkey : key = payer
  · simp [hkey, Instruction.named]
  · by_cases hwrites : i.Writes key <;> simp [hkey, hwrites]

theorem nodup_keysOf (h : i.SignedBy payer) : (keysOf payer i).Nodup := by
  refine List.nodup_cons.2 ⟨fun hmem => ?_, List.Nodup.append nodup_keyClass nodup_keyClass ?_⟩
  · rcases List.mem_append.1 hmem with hmem | hmem
    · exact ((mem_others h).1 hmem).2.1 rfl
    · exact ((mem_others h).1 hmem).2.1 rfl
  · -- A key that is written is not one that is not.
    intro key hmem hmem'
    have hwrites := ((mem_others h).1 hmem).2.2.2 rfl
    exact absurd (((mem_others h).1 hmem').2.2.1 hwrites) Bool.false_ne_true

/-- There are no more keys than different ones are mentioned. -/
theorem length_keysOf_le (h : i.SignedBy payer) :
    (keysOf payer i).length ≤ (i.named payer).dedup.length := by
  -- The two lists are in different orders, so that only their members can be compared.
  have hsub : keysOf payer i ⊆ (i.named payer).dedup := fun key hmem =>
    List.mem_dedup.2 ((mem_keysOf h).1 hmem)
  exact ((nodup_keysOf h).subperm hsub).length_le

/-- A key is found at its place, which an octet holds. -/
theorem getElem?_place {keys : List PublicKey} (hmem : key ∈ keys) (hlength : keys.length ≤ 256) :
    keys[(UInt8.ofNat (keys.idxOf key)).toNat]? = some key := by
  have hplace := List.idxOf_lt_length_of_mem hmem
  rw [UInt8.toNat_ofNat', Nat.mod_eq_of_lt (by omega)]
  exact List.getElem?_idxOf hmem

/-- The number of keys that are not written is small enough for the header. -/
theorem length_others_le (hlength : (keysOf payer i).length ≤ 256) :
    (others payer i false).length ≤ 255 := by
  rw [length_keysOf] at hlength
  omega

/-- The message of an instruction that nobody but the payer signs. -/
def layout (payer : PublicKey) (blockhash : BlockHash) (i : Instruction) : Message :=
  let place (key : PublicKey) : UInt8 := UInt8.ofNat ((keysOf payer i).idxOf key)
  { header := ⟨1, 0, UInt8.ofNat (others payer i false).length⟩
    accountKeys := keysOf payer i
    recentBlockhash := blockhash
    calls := [⟨place i.programId, i.accounts.map fun a => place a.key, i.data⟩] }

theorem compile?_eq_layout (h : i.SignedBy payer) (hlength : (keysOf payer i).length ≤ 256) :
    compile? payer blockhash [i] = some (layout payer blockhash i) := by
  have hreadonlys : (keyClass payer (mentions [i]) false false).length ≤ 255 :=
    length_others_le hlength
  unfold compile?
  simp only [keyClass_signer h]
  rw [if_neg (by simpa using hreadonlys)]
  rfl

theorem hasOctets_layout (hlength : (keysOf payer i).length ≤ 256)
    (haccounts : i.accounts.length ≤ 65535) (hdata : i.data.length ≤ 65535) :
    (layout payer blockhash i).hasOctets = true := by
  have hlimit : CompactLength.limit = 65536 := rfl
  simp only [hasOctets, layout, hlimit, List.length_map, List.length_singleton, List.all_cons,
    List.all_nil, Bool.and_true, Bool.and_eq_true, decide_eq_true_eq]
  omega

/-- A key at a place after the payer's is in the class that the place belongs to. -/
theorem mem_class_of_getElem? {place : Nat} (hkey : (keysOf payer i)[place + 1]? = some key) :
    place < (others payer i true).length ∧
        key ∈ others payer i true ∨
      (others payer i true).length ≤ place ∧
        key ∈ others payer i false := by
  rw [keysOf, List.getElem?_cons_succ] at hkey
  by_cases hplace : place < (others payer i true).length
  · rw [List.getElem?_append_left hplace] at hkey
    exact .inl ⟨hplace, List.mem_of_getElem? hkey⟩
  · rw [List.getElem?_append_right (Nat.not_lt.1 hplace)] at hkey
    exact .inr ⟨Nat.not_lt.1 hplace, List.mem_of_getElem? hkey⟩

theorem laysOut_layout (h : i.SignedBy payer) (hlength : (keysOf payer i).length ≤ 256) :
    (layout payer blockhash i).LaysOut payer blockhash i where
  classes := by
    refine ⟨_, _, rfl, fun key hmem => ?_, pairwise_keyClass, fun key hmem hwrites => ?_,
      pairwise_keyClass⟩
    · exact ((mem_others h).1 hmem).2.2.2 rfl
    · exact absurd (((mem_others h).1 hmem).2.2.1 hwrites) Bool.false_ne_true
  nodup := nodup_keysOf h
  mem_iff key := mem_keysOf h
  recentBlockhash := rfl
  call := by
    refine ⟨_, rfl, rfl, getElem?_place ((mem_keysOf h).2 (by simp [Instruction.named])) hlength, ?_⟩
    rw [List.map_map]
    refine List.map_congr_left fun a ha => getElem?_place ((mem_keysOf h).2 ?_) hlength
    exact List.mem_cons_of_mem _ (List.mem_cons_of_mem _ (List.mem_map_of_mem ha))
  signs_iff place key hkey := by
    change place < 1 ↔ key = payer
    cases place with
    | zero =>
      have hpayer : payer = key := Option.some.inj hkey
      simp [hpayer]
    | succ place =>
      refine iff_of_false (by omega) ?_
      rcases mem_class_of_getElem? hkey with ⟨-, hmem⟩ | ⟨-, hmem⟩
      · exact ((mem_others h).1 hmem).2.1
      · exact ((mem_others h).1 hmem).2.1
  writes_iff place key hkey := by
    -- The count in the header is the number of read-only keys, which an octet holds.
    have hcount : (UInt8.ofNat (others payer i false).length).toNat =
        (others payer i false).length := by
      have hle := length_others_le hlength
      rw [UInt8.toNat_ofNat', Nat.mod_eq_of_lt (by omega)]
    change (if place < 1 then place < 1 - 0
      else place < (keysOf payer i).length - (UInt8.ofNat (others payer i false).length).toNat) ↔ _
    rw [hcount, length_keysOf]
    cases place with
    | zero =>
      have hpayer : payer = key := Option.some.inj hkey
      simp [hpayer]
    | succ place =>
      rw [if_neg (by omega)]
      rcases mem_class_of_getElem? hkey with ⟨hplace, hmem⟩ | ⟨hplace, hmem⟩
      · exact iff_of_true (by omega) (.inr (((mem_others h).1 hmem).2.2.2 rfl))
      · obtain ⟨-, hne, hwrites⟩ := (mem_others h).1 hmem
        have hnot : ¬ i.Writes key := fun hw => absurd (hwrites.1 hw) Bool.false_ne_true
        exact iff_of_false (by omega) (fun hor => hor.elim hne hnot)

/-- The message of the probe of a program.  A payer that is the program itself is the only key. -/
def ofProbe (payer program : PublicKey) (blockhash : BlockHash) : Message :=
  if program = payer then ⟨⟨1, 0, 0⟩, [payer], blockhash, [⟨0, [], [0]⟩]⟩
  else ⟨⟨1, 0, 1⟩, [payer, program], blockhash, [⟨1, [], [0]⟩]⟩

/-- Nothing but the program is mentioned by its probe, and neither to sign nor to be written. -/
theorem keyClass_probe (payer program : PublicKey) (signer writable : Bool) :
    keyClass payer (mentions [.probe program]) signer writable =
      if signer = false ∧ writable = false ∧ program ≠ payer then [program] else [] := by
  have hmentions : mentions [.probe program] = [⟨program, false, false⟩] := rfl
  rw [hmentions]
  by_cases h : program = payer <;> cases signer <;> cases writable <;>
    simp [keyClass, SortedKeys.ofList, SortedKeys.insert, h]

theorem others_probe (payer program : PublicKey) (writable : Bool) :
    others payer (.probe program) writable =
      if writable = false ∧ program ≠ payer then [program] else [] := by
  simp [others, keyClass_probe]

theorem layout_probe (payer program : PublicKey) (blockhash : BlockHash) :
    layout payer blockhash (.probe program) = ofProbe payer program blockhash := by
  by_cases h : program = payer
  · have hkeys : keysOf payer (.probe program) = [payer] := by
      simp [keysOf, others_probe, h]
    simp only [layout, ofProbe, hkeys, others_probe]
    simp [h, Instruction.probe, Instruction.probePayload]
  · have hkeys : keysOf payer (.probe program) = [payer, program] := by
      simp [keysOf, others_probe, h]
    have hplace : [payer, program].idxOf program = 1 := by
      rw [List.idxOf_cons_ne _ (Ne.symm h), List.idxOf_cons_self]
    simp only [layout, ofProbe, hkeys, others_probe]
    simp [h, hplace, Instruction.probe, Instruction.probePayload]

end Keys

end Message

end ClusterProbe
