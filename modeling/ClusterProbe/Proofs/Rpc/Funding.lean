import ClusterProbe.CommandLine.Reader
import ClusterProbe.Proofs.CommandLine.Values
import ClusterProbe.Proofs.Probe.Payer
import ClusterProbe.Proofs.Rpc.Run

/-!
# Airdrops and fees

A node quotes the fee of a message.  A probe asks for the fee of a message of its own making, and
sizes the airdrop by it; the transaction that it then sends has another message, with as many
required signatures.  So where fees go by the signatures alone, the airdrop is an exact multiple of
the fee of the transaction, and covers it unless it is the multiple by zero.
-/

namespace ClusterProbe

def Call.lamports? : Call → Option UInt64
  | .airdrop _ lamports => some lamports
  | _ => none

/-- An airdrop is asked for only once its plan's fee is known, and with a generated payer. -/
theorem Plan.quoted_of_airdrop {plan : Plan} {config : Config} {history : List Event}
    {account : PublicKey} {lamports : UInt64}
    (hcalls : history.map (·.1) <+: (plan.events config).map (·.1))
    (hhistory : history.dropLast <+: plan.events config)
    (h : .airdrop account lamports ∈ history.map (·.1)) :
    config.keypair = none ∧ account = plan.payer.publicKey ∧ lamports = plan.lamports ∧
      2 < history.length ∧ ⟨.fee, .ok plan.fee⟩ ∈ history := by
  have hmem := hcalls.subset h
  cases hkeypair : config.keypair with
  | some path => simp [events, hkeypair] at hmem
  | none =>
    -- The airdrop is the third call, so the first two had their answers.
    have hlong : 2 < history.length := by
      by_contra hshort
      have hfirst : history.map (·.1) <+: ((plan.events config).map (·.1)).take 2 :=
        List.prefix_take_iff.2 ⟨hcalls, by rw [List.length_map]; omega⟩
      have hearly := hfirst.subset h
      simp [events, hkeypair] at hearly
    have hfirst : (plan.events config).take 2 <+: history.dropLast := by
      refine List.prefix_of_prefix_length_le (List.take_prefix 2 _) hhistory ?_
      have hle := List.length_take_le 2 (plan.events config)
      rw [List.length_dropLast]
      omega
    have hfee : ⟨.fee, .ok plan.fee⟩ ∈ (plan.events config).take 2 := by
      simp [events, hkeypair]
    refine ⟨rfl, ?_, ?_, hlong, List.mem_of_mem_dropLast (hfirst.subset hfee)⟩
    · simp [events, hkeypair] at hmem
      exact hmem.1
    · simp [events, hkeypair] at hmem
      exact hmem.2

/-- The transaction of a probe requires as many signatures as the message whose fee is asked for. -/
theorem Transaction.requiredSignatures_of_signedBy {payer : Keypair} {blockhash : BlockHash}
    {instruction : Instruction} {transaction : Transaction}
    (h : signedBy payer blockhash instruction = .ok transaction) (blockhash' : BlockHash) :
    transaction.message.header.requiredSignatures =
      (Message.ofFeeQuery blockhash').header.requiredSignatures :=
  (signatures_of_signedBy h).2.1

namespace Rpc

open CommandLine (bind_eq_ok_iff map_eq_ok_iff)

/-! ## Fees that a node quotes -/

/-- The message whose fee the node has quoted in an exchange, with that fee, if it has. -/
def Exchanged.quoted? (e : Exchanged) : Option (Message × Nat) :=
  match e.request with
  | .getFeeForMessage message _ => do
    let result ← e.answer?
    let fee ← (inContext (Json.Shape.nullable Json.Shape.u64) (some none) result).toOption
    fee.map (message, ·)
  | _ => none

theorem lt_size_of_u64 {j : Json} {n : Nat} (h : Json.Shape.u64 j = .ok n) : n < UInt64.size := by
  unfold Json.Shape.u64 Json.Shape.countBelow at h
  split at h
  · split at h
    · next hlt =>
      cases h
      exact hlt
    · cases h
  · cases h
  · cases h

theorem shape_of_nullable {α : Type} {shape : Json.Shape α} {j : Json} {a : α}
    (h : Json.Shape.nullable shape j = .ok (some a)) : shape j = .ok a := by
  unfold Json.Shape.nullable at h
  split at h
  · cases h
  · obtain ⟨a', ha, hsome⟩ := map_eq_ok_iff.1 h
    rw [ha, Option.some.inj hsome]

theorem exists_shape_of_member {α : Type} {shape : Json.Shape α} {members : List (String × Json)}
    {name : String} {a : α} (h : Json.Shape.member? members name shape = .ok (some a)) :
    ∃ j, shape j = .ok a := by
  unfold Json.Shape.member? at h
  split at h
  · cases h
  · next j _ =>
    obtain ⟨a', ha, hsome⟩ := map_eq_ok_iff.1 h
    exact ⟨j, by rw [ha, Option.some.inj hsome]⟩

theorem exists_shape_of_item {α : Type} {shape : Json.Shape α} {kind : String} {count place : Nat}
    {items : List Json} {a : α} (h : Json.Shape.itemAt kind count items place shape = .ok a) :
    ∃ j, shape j = .ok a := by
  unfold Json.Shape.itemAt at h
  split at h
  · exact ⟨_, h⟩
  · cases h

/-- A value with its context is one of its shape, or stands for one that was left out. -/
theorem value_of_inContext {α : Type} {shape : Json.Shape α} {absent : Option α} {j : Json} {a : α}
    (h : inContext shape absent j = .ok a) : (∃ value, shape value = .ok a) ∨ absent = some a := by
  unfold inContext at h
  split at h
  · next members =>
    obtain ⟨given, -, h⟩ := bind_eq_ok_iff.1 h
    obtain ⟨value, hvalue, h⟩ := bind_eq_ok_iff.1 h
    obtain ⟨-, -, h⟩ := bind_eq_ok_iff.1 h
    cases value with
    | some a' =>
      obtain rfl : a' = a := Except.ok.inj h
      exact .inl (exists_shape_of_member hvalue)
    | none =>
      cases absent with
      | none => cases h
      | some a' => exact .inr (congrArg some (Except.ok.inj h))
  · obtain ⟨-, -, h⟩ := bind_eq_ok_iff.1 h
    obtain ⟨a', hvalue, h⟩ := bind_eq_ok_iff.1 h
    obtain ⟨-, -, h⟩ := bind_eq_ok_iff.1 h
    obtain rfl : a' = a := Except.ok.inj h
    exact .inl (exists_shape_of_item hvalue)
  · cases h

/-- A fee is a number below `2 ^ 64`. -/
theorem lt_size_of_fee {j : Json} {fee : Nat}
    (h : inContext (Json.Shape.nullable Json.Shape.u64) (some none) j = .ok (some fee)) :
    fee < UInt64.size := by
  rcases value_of_inContext h with ⟨value, hvalue⟩ | habsent
  · exact lt_size_of_u64 (shape_of_nullable hvalue)
  · cases habsent

namespace Client

variable (c : Client)

/-- What was read as a fee is what the node has quoted. -/
theorem quoted_of_asked {message : Message} {level : String} {added : List Exchanged}
    {outcome : Except (Abort LedgerFault) (Option Nat)} {fee : Nat}
    (h : Asked (.getFeeForMessage message level)
      (inContext (Json.Shape.nullable Json.Shape.u64) (some none)) added outcome)
    (hfee : outcome = .ok (some fee)) :
    fee < UInt64.size ∧ ∃ e ∈ added, e.quoted? = some (message, fee) := by
  obtain ⟨x, result, rfl, hanswer, hread⟩ := h.answer _ hfee
  refine ⟨lt_size_of_fee hread, _, List.mem_singleton_self _, ?_⟩
  simp [Exchanged.quoted?, hanswer, hread, Except.toOption]

/-- A fee is what the node quotes for the message of a fee query. -/
theorem adds_fee :
    Adds (fun added outcome => ∀ fee : UInt64, outcome = .ok fee →
        ∃ e ∈ added, ∃ blockhash, e.quoted? = some (.ofFeeQuery blockhash, fee.toNat))
      c.fee := by
  let quotes (blockhash : BlockHash) (added : List Exchanged)
      (outcome : Except (Abort LedgerFault) UInt64) : Prop :=
    ∀ fee : UInt64, outcome = .ok fee →
      ∃ e ∈ added, e.quoted? = some (.ofFeeQuery blockhash, fee.toNat)
  let takes (read : Option Nat) (added : List Exchanged)
      (outcome : Except (Abort LedgerFault) UInt64) : Prop :=
    added = [] ∧ ∀ fee, outcome = .ok fee → ∃ n, read = some n ∧ fee = UInt64.ofNat n
  refine c.harmless_blockhash.bind (fun blockhash => (?_ : Adds (quotes blockhash) _))
    (fun _ _ _ => nofun) ?_
  · refine (c.adds_query _ _).bind (fun read => (?_ : Adds (takes read) _)) (fun _ _ _ => nofun) ?_
    · cases read with
      | some n =>
        refine (Adds.pure _).mono ?_
        rintro added outcome ⟨hadded, rfl⟩
        exact ⟨hadded, fun fee hfee => ⟨n, rfl, (Except.ok.inj hfee).symm⟩⟩
      | none =>
        refine (Adds.failWith _).mono ?_
        rintro added outcome ⟨hadded, rfl⟩
        exact ⟨hadded, nofun⟩
    · rintro before added read outcome hasked ⟨rfl, htaken⟩ fee hfee
      obtain ⟨n, rfl, rfl⟩ := htaken fee hfee
      obtain ⟨hlt, e, he, hquoted⟩ := quoted_of_asked hasked rfl
      rw [List.append_nil, UInt64.toNat_ofNat', Nat.mod_eq_of_lt hlt]
      exact ⟨e, he, hquoted⟩
  · intro before added blockhash outcome _ hquotes fee hfee
    obtain ⟨e, he, hquoted⟩ := hquotes fee hfee
    exact ⟨e, List.mem_append_right _ he, blockhash, hquoted⟩

/-- What a call for the fee leaves in the log. -/
def Quoted : Event → List Exchanged → Prop
  | ⟨.fee, outcome⟩, added => ∀ fee : UInt64, outcome = .ok fee →
    ∃ e ∈ added, ∃ blockhash, e.quoted? = some (.ofFeeQuery blockhash, fee.toNat)
  | _, _ => True

theorem adds_quoted (call : Call) :
    Adds (fun added outcome => Quoted ⟨call, outcome⟩ added) (c.perform call) := by
  cases call with
  | fee => exact c.adds_fee
  | _ => exact (c.adds_perform _).mono fun _ _ _ => trivial

end Client

end Rpc

namespace Program

/-- A fee that a probe knows was quoted by the node for the message of a fee query. -/
theorem exists_quoted_of_fee {config : Config} {listens : String × Nat → Bool}
    {around : Surroundings} {replies : List Rpc.Reply} {flag : Bool} {moments : Interrupts}
    {fee : UInt64}
    (h : ⟨.fee, .ok fee⟩ ∈
      (interruptedProbe config listens around replies flag moments).history) :
    ∃ e ∈ (interruptedProbe config listens around replies flag moments).state.1.log,
      ∃ blockhash, e.quoted? = some (.ofFeeQuery blockhash, fee.toNat) := by
  obtain ⟨pieces, hlog, hpieces⟩ := exists_pieces_of_adds config listens around replies flag moments
    Rpc.Client.Quoted (client config listens).adds_quoted
  obtain ⟨chosen, hchosen, hpiece⟩ := exists_sublist_pieces hpieces (List.singleton_sublist.2 h)
  obtain _ | ⟨hquoted, _ | _⟩ := hpiece
  obtain ⟨e, he, hmessage⟩ := hquoted fee rfl
  refine ⟨e, List.mem_reverse.1 ?_, hmessage⟩
  rw [hlog]
  exact List.mem_flatten_of_mem (List.singleton_sublist.1 hchosen) he

/-- Let the fees that the node quotes go by the required signatures of a message alone.  The message
of a fee query and the transaction of a probe require the same number of them, whatever the payer,
the program and the block hashes.  So whenever a probe asks for an airdrop, it does so for its
generated payer, the size is the exact multiple of the fee of every transaction that it may then
send, and the airdrop covers this fee unless the multiplier is zero. -/
theorem airdrop_interruptedProbe (config : Config) (listens : String × Nat → Bool)
    (around : Surroundings) (replies : List Rpc.Reply) (flag : Bool) (moments : Interrupts)
    (quote : UInt8 → Nat)
    (hquote : ∀ e ∈ (interruptedProbe config listens around replies flag moments).state.1.log,
      ∀ message fee, e.quoted? = some (message, fee) →
        fee = quote message.header.requiredSignatures) :
    let p := interruptedProbe config listens around replies flag moments
    (∀ payer program blockhash blockhash', ∃ transaction,
      Transaction.signedBy payer blockhash (.probe program) = .ok transaction ∧
      transaction.message.header.requiredSignatures =
        (Message.ofFeeQuery blockhash').header.requiredSignatures) ∧
    ∀ account lamports, .airdrop account lamports ∈ p.calls →
      account = around.freshPayer.publicKey ∧
      ∃ program, PublicKey.ofBase58 config.address = .ok program ∧
        (∀ transaction, .send transaction ∈ p.calls → ∃ blockhash,
          Transaction.signedBy around.freshPayer blockhash (.probe program) = .ok transaction) ∧
        ∀ blockhash transaction,
          Transaction.signedBy around.freshPayer blockhash (.probe program) = .ok transaction →
          let fee := quote transaction.message.header.requiredSignatures
          lamports.toNat = fee * config.multiplier.toNat ∧
          (config.multiplier ≠ 0 → fee ≤ lamports.toNat) := by
  intro p
  refine ⟨fun payer program blockhash blockhash' => ?_, fun account lamports hairdrop => ?_⟩
  · obtain ⟨transaction, htransaction⟩ :=
      Transaction.exists_signedBy_probe payer blockhash program
    exact ⟨transaction, htransaction,
      Transaction.requiredSignatures_of_signedBy htransaction blockhash'⟩
  · obtain ⟨plan, hcalls, hhistory, hfits⟩ := Probe.exists_plan_run config around
      ((client config listens).ledger.interrupted moments) _ flag
    obtain ⟨hkeypair, rfl, rfl, hlong, hfee⟩ :=
      Plan.quoted_of_airdrop hcalls hhistory hairdrop
    have fits := hfits (by rw [Played.calls, List.length_map]; exact hlong)
    obtain hpayer : plan.payer = around.freshPayer := by
      have hpayer := fits.payer
      rwa [hkeypair] at hpayer
    -- The plan's fee was quoted for the message of a fee query, under some block hash.
    obtain ⟨e, he, blockhash', hquoted⟩ := exists_quoted_of_fee hfee
    rw [hpayer]
    refine ⟨rfl, plan.program, fits.program, fun transaction hsend => ?_, ?_⟩
    · have hplanned : .send transaction ∈ (plan.events config).map (·.1) := hcalls.subset hsend
      obtain rfl : transaction = plan.transaction := by
        simpa [Plan.events, hkeypair] using hplanned
      exact ⟨plan.blockhash, hpayer ▸ fits.transaction⟩
    · intro blockhash transaction htransaction fee
      have hplanned : plan.fee.toNat = fee := by
        rw [hquote e he _ _ hquoted]
        exact congrArg quote
          (Transaction.requiredSignatures_of_signedBy htransaction blockhash').symm
      rw [fits.lamports, hplanned]
      refine ⟨rfl, fun hmultiplier => Nat.le_mul_of_pos_right fee ?_⟩
      exact Nat.pos_of_ne_zero fun hzero => hmultiplier (UInt64.toNat_inj.1 hzero)

/-- A run over a node that quotes 5000 lamports and gives no airdrop. -/
def quotedRun (multiplier : UInt64) : Played (Rpc.Session × Nat) Probe.Result :=
  interruptedProbe { endpoint := "http://[::1]", multiplier } (fun _ => true)
    ⟨fun _ => .error .notFound, .ofSeed (.replicate 32 0)⟩ (repliesOf []) false .none

theorem fee_of_quotedRun (multiplier : UInt64)
    (h : ((quotedRun multiplier).state.1.log.all fun e => e.quoted?.all fun q =>
      q.2 == 5000 * q.1.header.requiredSignatures.toNat) = true) :
    ∀ e ∈ (quotedRun multiplier).state.1.log, ∀ message fee, e.quoted? = some (message, fee) →
      fee = 5000 * message.header.requiredSignatures.toNat := by
  intro e he message fee hquoted
  have hfee := List.all_eq_true.1 h e he
  rw [hquoted] at hfee
  exact eq_of_beq hfee

theorem exists_airdrop_of_lamports (calls : List Call) (lamports : UInt64)
    (h : lamports ∈ calls.filterMap Call.lamports?) :
    ∃ account, .airdrop account lamports ∈ calls := by
  obtain ⟨call, hcall, hlamports⟩ := List.mem_filterMap.1 h
  cases call with
  | airdrop account n =>
    cases hlamports
    exact ⟨account, hcall⟩
  | _ => cases hlamports

/-- With the default multiplier, 500000 lamports cover the fee of every transaction of the payer. -/
theorem airdrop_interruptedProbe_quoted :
    (∀ e ∈ (quotedRun 100).state.1.log, ∀ message fee, e.quoted? = some (message, fee) →
      fee = 5000 * message.header.requiredSignatures.toNat) ∧
    ∃ account, .airdrop account 500000 ∈ (quotedRun 100).calls ∧
      ∃ program, ∀ blockhash transaction,
        Transaction.signedBy (.ofSeed (.replicate 32 0)) blockhash (.probe program) =
          .ok transaction →
        5000 * transaction.message.header.requiredSignatures.toNat ≤ 500000 := by
  have hquote := fee_of_quotedRun 100 (by decide +kernel)
  obtain ⟨account, hairdrop⟩ :=
    exists_airdrop_of_lamports (quotedRun 100).calls 500000 (by decide +kernel)
  obtain ⟨-, program, -, -, hcovers⟩ := (airdrop_interruptedProbe _ _ _ _ _ _
    (5000 * ·.toNat) hquote).2 account 500000 hairdrop
  exact ⟨hquote, account, hairdrop, program, fun blockhash transaction h =>
    (hcovers blockhash transaction h).2 (by decide)⟩

/-- A multiplier of zero is accepted, and the probe then asks for nothing, which covers no fee. -/
theorem airdrop_interruptedProbe_nothing :
    CommandLine.read [Utf8.encode "--url=http://[::1]", Utf8.encode "--fee-multiplier=0"] =
      .ok { endpoint := "http://[::1]", multiplier := 0 } ∧
    (∀ e ∈ (quotedRun 0).state.1.log, ∀ message fee, e.quoted? = some (message, fee) →
      fee = 5000 * message.header.requiredSignatures.toNat) ∧
    (∃ account, .airdrop account 0 ∈ (quotedRun 0).calls) ∧
    ∀ program blockhash, ∃ transaction,
      Transaction.signedBy (.ofSeed (.replicate 32 0)) blockhash (.probe program) =
        .ok transaction ∧
      ¬ 5000 * transaction.message.header.requiredSignatures.toNat ≤ (0 : UInt64).toNat := by
  refine ⟨by decide +kernel, fee_of_quotedRun 0 (by decide +kernel),
    exists_airdrop_of_lamports _ 0 (by decide +kernel), fun program blockhash => ?_⟩
  obtain ⟨transaction, htransaction⟩ := Transaction.exists_signedBy_probe
    (.ofSeed (.replicate 32 0)) blockhash program
  have hone : transaction.message.header.requiredSignatures = 1 :=
    Transaction.requiredSignatures_of_signedBy htransaction blockhash
  refine ⟨transaction, htransaction, ?_⟩
  rw [hone]
  decide

end Program

end ClusterProbe
