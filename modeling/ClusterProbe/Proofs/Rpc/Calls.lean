import ClusterProbe.Dialogue
import ClusterProbe.Proofs.Rpc.Wait

/-!
# What ledger calls leave in the log

The exchanges of each ledger call of a client, as far as airdrops, transactions and their
confirmations go.
-/

namespace ClusterProbe.Rpc

namespace Exchanged

/-- The node gave an airdrop a signature text. -/
def Grants (e : Exchanged) (account : PublicKey) (lamports : UInt64) (text : String) : Prop :=
  (∃ level, e.request = .requestAirdrop account lamports level) ∧
    e.answer? = some (.string text)

/-- The node was handed a transaction. -/
def Hands (e : Exchanged) (transaction : Transaction) : Prop :=
  ∃ encoding level, e.request = .sendTransaction transaction encoding level

end Exchanged

/-- What a call with its outcome leaves in the log. -/
def Leaves (level : Commitment) (added : List Exchanged) : Event → Prop
  | ⟨.airdrop account lamports, outcome⟩ =>
    Harmless added ∧ ∀ signature, outcome = .ok signature →
      ∃ e ∈ added, e.Grants account lamports signature.toBase58
  | ⟨.confirm signature, outcome⟩ =>
    Harmless added ∧ (outcome = .ok () → ∃ e ∈ added, e.Lands level signature.toBase58)
  | ⟨.send transaction, outcome⟩ =>
    added.countP (·.request.isSend) ≤ 1 ∧
      (∀ e ∈ added, e.request.isSend = true → e.Hands transaction) ∧
      ∀ signature, outcome = .ok signature →
        transaction.signature?.getD (.replicate 64 0) = signature ∧
        ∃ e ∈ added, e.Hands transaction ∧ e.answer? = some (.string signature.toBase58)
  | ⟨.handshake, _⟩ => Harmless added
  | ⟨.fee, _⟩ => Harmless added
  | ⟨.blockhash, _⟩ => Harmless added

theorem string_of_shape {result : Json} {text : String}
    (h : Json.Shape.string result = .ok text) : result = .string text := by
  cases result <;> cases h
  rfl

namespace Client

variable (c : Client)

theorem adds_airdrop (account : PublicKey) (lamports : UInt64) :
    Adds (fun added outcome => Leaves c.confirmation.level added ⟨.airdrop account lamports, outcome⟩)
      (c.airdrop account lamports) := by
  let granted (added : List Exchanged) (outcome : Except (Abort LedgerFault) Signature) : Prop :=
    Harmless added ∧ ∀ signature, outcome = .ok signature →
      ∃ e ∈ added, e.Grants account lamports signature.toBase58
  -- A signature that was read is written as the node wrote it.
  have hask (name : String) : Adds granted (do
      let text ← c.query (.requestAirdrop account lamports name) Json.Shape.string
      given (fun _ => airdropFailure) (Signature.ofBase58 text)) := by
    refine (c.adds_query _ _).bind (fun text => .given _ _) ?_ ?_
    · intro added abort hasked
      exact ⟨.of_asked hasked rfl, nofun⟩
    · rintro before added text outcome hasked ⟨rfl, hgiven⟩
      rw [List.append_nil]
      refine ⟨.of_asked hasked rfl, fun signature hsignature => ?_⟩
      obtain ⟨x, result, rfl, hanswer, hstring⟩ := hasked.answer text rfl
      refine ⟨_, List.mem_singleton_self _, ⟨name, rfl⟩, ?_⟩
      rw [hanswer, string_of_shape hstring, Octets.toBase58_of_octets (hgiven signature hsignature)]
  refine c.harmless_version.bind (fun v => (hask (c.levelName v)).blaming _) ?_ ?_
  · intro added abort hharmless
    exact ⟨hharmless, nofun⟩
  · rintro before added v outcome hbefore ⟨inner, ⟨hharmless, hgranted⟩, hinner⟩
    refine ⟨hbefore.append hharmless, fun signature hsignature => ?_⟩
    obtain ⟨e, he, hgrants⟩ := hgranted signature (hinner signature hsignature)
    exact ⟨e, List.mem_append_right _ he, hgrants⟩

/-- A transaction goes on under its own signature alone. -/
theorem adds_named (transaction : Transaction) (text : String) :
    Adds (fun added outcome => added = [] ∧ ∀ signature, outcome = .ok signature →
        transaction.signature?.getD (.replicate 64 0) = signature ∧ signature.toBase58 = text)
      (named transaction text) := by
  let own := transaction.signature?.getD (.replicate 64 0)
  let checked (signature : Signature) (added : List Exchanged)
      (outcome : Except (Abort LedgerFault) Signature) : Prop :=
    added = [] ∧ ∀ signature', outcome = .ok signature' → signature = own ∧ own = signature'
  refine (Adds.given _ _).bind (fun signature => (?_ : Adds (checked signature) _)) ?_ ?_
  · dsimp only
    split
    · next hown =>
      refine (Adds.pure own).mono fun added outcome ⟨hadded, houtcome⟩ => ⟨hadded, ?_⟩
      intro signature' h
      exact ⟨hown, Except.ok.inj (houtcome.symm.trans h)⟩
    · refine (Adds.failWith _).mono fun added outcome ⟨hadded, houtcome⟩ => ⟨hadded, ?_⟩
      intro signature' h
      rw [houtcome] at h
      cases h
  · intro added abort hgiven
    exact ⟨hgiven.1, nofun⟩
  · rintro before added signature outcome ⟨rfl, hgiven⟩ ⟨rfl, hown⟩
    refine ⟨rfl, fun signature' h => ?_⟩
    obtain ⟨rfl, rfl⟩ := hown signature' h
    exact ⟨rfl, Octets.toBase58_of_octets (hgiven _ rfl)⟩

theorem adds_hand (transaction : Transaction) (encoding : Encoding) (name : String) :
    Adds (fun added outcome => Leaves c.confirmation.level added ⟨.send transaction, outcome⟩)
      (c.query (.sendTransaction transaction encoding name) Json.Shape.string >>=
        named transaction) := by
  refine (c.adds_query _ _).bind (adds_named transaction) ?_ ?_
  · intro added abort hasked
    exact ⟨List.countP_le_length.trans hasked.length_le_one,
      fun e he _ => ⟨encoding, name, hasked.request_eq e he⟩, nofun⟩
  · rintro before added text outcome hasked ⟨rfl, hsignature⟩
    rw [List.append_nil]
    refine ⟨List.countP_le_length.trans hasked.length_le_one,
      fun e he _ => ⟨encoding, name, hasked.request_eq e he⟩, fun signature h => ?_⟩
    obtain ⟨hown, rfl⟩ := hsignature signature h
    obtain ⟨x, result, rfl, hanswer, hstring⟩ := hasked.answer _ rfl
    refine ⟨hown, _, List.mem_singleton_self _, ⟨encoding, name, rfl⟩, ?_⟩
    rw [hanswer, string_of_shape hstring]

theorem adds_send (transaction : Transaction) :
    Adds (fun added outcome => Leaves c.confirmation.level added ⟨.send transaction, outcome⟩)
      (c.send transaction) := by
  refine c.harmless_version.bind (fun v => c.adds_hand transaction _ (c.levelName v)) ?_ ?_
  · intro added abort hharmless
    exact ⟨hharmless.countP_isSend ▸ Nat.zero_le 1,
      fun e he hsend => absurd hsend (hharmless.not_isSend he), nofun⟩
  · rintro before added v outcome hbefore ⟨hcount, hhands, hok⟩
    refine ⟨?_, fun e he hsend => ?_, fun signature h => ?_⟩
    · rw [List.countP_append, hbefore.countP_isSend, Nat.zero_add]
      exact hcount
    · rcases List.mem_append.1 he with he | he
      · exact absurd hsend (hbefore.not_isSend he)
      · exact hhands e he hsend
    · obtain ⟨hown, e, he, hands⟩ := hok signature h
      exact ⟨hown, e, List.mem_append_right _ he, hands⟩

theorem adds_perform (call : Call) :
    Adds (fun added outcome => Leaves c.confirmation.level added ⟨call, outcome⟩)
      (c.perform call) := by
  cases call with
  | handshake => exact c.harmless_versionText
  | fee => exact c.harmless_fee
  | airdrop account lamports => exact c.adds_airdrop account lamports
  | confirm signature =>
    refine (c.adds_confirm signature).mono fun added outcome ⟨hrequest, hlands⟩ => ⟨?_, hlands⟩
    intro e he
    rw [hrequest e he]
    rfl
  | blockhash => exact c.harmless_blockhash
  | send transaction => exact c.adds_send transaction

end Client

end ClusterProbe.Rpc
