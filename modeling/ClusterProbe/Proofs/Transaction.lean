import ClusterProbe.Proofs.Crypto.Signature
import ClusterProbe.Proofs.Message
import ClusterProbe.Transaction

/-!
# Transactions that the payer alone signs

What every transaction of `Transaction.signedBy` looks like, and that an instruction has one if
nobody but the payer signs it and its keys and its lists are not too many.
-/

namespace ClusterProbe

namespace Transaction

/-- The payer signs the message, and nobody else has to. -/
theorem signatures_of_signedBy {payer : Keypair} {blockhash : BlockHash}
    {instruction : Instruction} {transaction : Transaction}
    (h : signedBy payer blockhash instruction = .ok transaction) :
    transaction.signatures = [payer.sign transaction.message.octets] ∧
      transaction.message.header.requiredSignatures = 1 ∧
      transaction.message.accountKeys.head? = some payer.publicKey ∧
      transaction.message.recentBlockhash = blockhash := by
  unfold signedBy at h
  split at h
  · simp at h
  · next message hmessage =>
    have hkeys := Message.head?_accountKeys_of_compile hmessage
    split at h
    · simp at h
    split at h
    · simp at h
    · next hone =>
      obtain rfl := Except.ok.inj h
      exact ⟨rfl, not_not.mp hone, hkeys⟩

/-- Whoever compares the signature with the payer's key and the message finds that it belongs to
them. -/
theorem verified_of_signedBy {payer : Keypair} {blockhash : BlockHash} {instruction : Instruction}
    {transaction : Transaction} (h : signedBy payer blockhash instruction = .ok transaction) :
    transaction.verified = true := by
  obtain ⟨hsignatures, -, hkey, -⟩ := signatures_of_signedBy h
  obtain ⟨others, hkeys⟩ := List.head?_eq_some_iff.1 hkey
  rw [verified, hsignatures, hkeys, List.zip_cons_cons, List.zip_nil_right, List.all_cons,
    List.all_nil, Bool.and_true]
  exact payer.verify_sign _

theorem signedBy_eq_layout {payer : Keypair} (blockhash : BlockHash) {i : Instruction}
    (h : i.SignedBy payer.publicKey) (hnamed : (i.named payer.publicKey).dedup.length ≤ 256)
    (haccounts : i.accounts.length ≤ 65535) (hdata : i.data.length ≤ 65535) :
    signedBy payer blockhash i =
      .ok ⟨[payer.sign (Message.layout payer.publicKey blockhash i).octets],
        Message.layout payer.publicKey blockhash i⟩ := by
  have hlength := Nat.le_trans (Message.length_keysOf_le h) hnamed
  have hone : (Message.layout payer.publicKey blockhash i).header.requiredSignatures = 1 := rfl
  simp [signedBy, Message.compile?_eq_layout h hlength,
    Message.hasOctets_layout hlength haccounts hdata, hone]

/-- The probe of a program can be sent by every payer. -/
theorem signedBy_probe (payer : Keypair) (blockhash : BlockHash) (program : PublicKey) :
    signedBy payer blockhash (.probe program) =
      .ok ⟨[payer.sign (Message.ofProbe payer.publicKey program blockhash).octets],
        .ofProbe payer.publicKey program blockhash⟩ := by
  have hsigned : (Instruction.probe program).SignedBy payer.publicKey := nofun
  -- Two keys are mentioned, and there is one octet of data.
  have hnamed : ((Instruction.probe program).named payer.publicKey).dedup.length ≤ 256 :=
    Nat.le_trans (List.dedup_sublist _).length_le (Nat.le_of_ble_eq_true rfl)
  have hdata : (Instruction.probe program).data.length ≤ 65535 := Nat.le_of_ble_eq_true rfl
  rw [signedBy_eq_layout blockhash hsigned hnamed (Nat.zero_le _) hdata, Message.layout_probe]

theorem exists_signedBy_probe (payer : Keypair) (blockhash : BlockHash) (program : PublicKey) :
    ∃ transaction, signedBy payer blockhash (.probe program) = .ok transaction :=
  ⟨_, signedBy_probe payer blockhash program⟩

/-- Every instruction that nobody but the payer signs has a transaction, signed by the payer and laid
out as the instruction says, as long as its lists have compact lengths and no more than 256 different
keys are mentioned, the payer's included.  The probe of a program always has one. -/
theorem exists_signedBy (payer : Keypair) (blockhash : BlockHash) :
    (∀ i : Instruction, i.SignedBy payer.publicKey →
      (i.named payer.publicKey).dedup.length ≤ 256 →
      i.accounts.length ≤ 65535 → i.data.length ≤ 65535 →
      ∃ transaction, signedBy payer blockhash i = .ok transaction ∧
        transaction.signatures = [payer.sign transaction.message.octets] ∧
        transaction.message.LaysOut payer.publicKey blockhash i) ∧
    ∀ program, ∃ transaction, signedBy payer blockhash (.probe program) = .ok transaction ∧
      transaction.signatures = [payer.sign transaction.message.octets] ∧
      transaction.message = .ofProbe payer.publicKey program blockhash := by
  refine ⟨fun i h hnamed haccounts hdata => ?_, fun program => ?_⟩
  · have hlength := Nat.le_trans (Message.length_keysOf_le h) hnamed
    exact ⟨_, signedBy_eq_layout blockhash h hnamed haccounts hdata, rfl,
      Message.laysOut_layout h hlength⟩
  · exact ⟨_, signedBy_probe payer blockhash program, rfl, rfl⟩

/-- An instruction that names its payer, its program and another account more than once. -/
theorem exists_signedBy_overlapping :
    let payer : Keypair := .ofSeed (.replicate 32 0)
    let i : Instruction := ⟨.replicate 32 1, [⟨payer.publicKey, true, false⟩,
      ⟨.replicate 32 1, false, true⟩, ⟨.replicate 32 2, false, false⟩,
      ⟨.replicate 32 2, false, true⟩, ⟨.replicate 32 3, false, false⟩], [7, 0]⟩
    ∃ transaction, signedBy payer (.replicate 32 9) i = .ok transaction ∧
      transaction.signatures = [payer.sign transaction.message.octets] ∧
      transaction.message.LaysOut payer.publicKey (.replicate 32 9) i := by
  intro payer i
  have hsigned : i.SignedBy payer.publicKey := by simp [Instruction.SignedBy, i]
  have hnamed : (i.named payer.publicKey).dedup.length ≤ 256 :=
    Nat.le_trans (List.dedup_sublist _).length_le (Nat.le_of_ble_eq_true rfl)
  exact (exists_signedBy payer _).1 i hsigned hnamed (Nat.le_of_ble_eq_true rfl)
    (Nat.le_of_ble_eq_true rfl)

end Transaction

end ClusterProbe
