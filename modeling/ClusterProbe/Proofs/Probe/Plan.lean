import ClusterProbe.Proofs.Probe.Itinerary
import ClusterProbe.Proofs.Transaction

/-!
# What a probe plans

A plan is the data of a whole probe: what it finds out, what it calls for, and what it is told.  A
probe goes along the calls of a plan that fits its configuration, unless an address, a size or a key
pair file keeps it from having one.
-/

namespace ClusterProbe

structure Plan where
  program : PublicKey
  payer : Keypair
  version : String
  fee : UInt64
  lamports : UInt64
  /-- The signature of the airdrop, if there is one. -/
  airdrop : Signature
  blockhash : BlockHash
  transaction : Transaction
  /-- The signature that the transaction is handed in under. -/
  signature : Signature

namespace Plan

/-- The data of a plan belong together under a configuration: the program is the one whose address
is given, the airdrop is the exact multiple of the fee, the payer comes from the file if there is
one, and the transaction is the program's probe, signed by the payer alone. -/
structure Fits (plan : Plan) (config : Config) (around : Surroundings) : Prop where
  program : PublicKey.ofBase58 config.address = .ok plan.program
  lamports : plan.lamports.toNat = plan.fee.toNat * config.multiplier.toNat
  payer : match config.keypair with
    | none => plan.payer = around.freshPayer
    | some path => KeypairFile.load around.readFile path = .ok plan.payer
  transaction :
    Transaction.signedBy plan.payer plan.blockhash (.probe plan.program) = .ok plan.transaction
  signatures :
    plan.transaction.signatures = [plan.payer.sign plan.transaction.message.octets]
  firstKey : plan.transaction.message.accountKeys.head? = some plan.payer.publicKey
  recentBlockhash : plan.transaction.message.recentBlockhash = plan.blockhash

namespace Fits

variable {plan : Plan} {config : Config} {around : Surroundings} (fits : plan.Fits config around)

include fits

/-- There is an airdrop of the size. -/
theorem small : ¬ UInt64.size ≤ plan.fee.toNat * config.multiplier.toNat := by
  rw [← fits.lamports]
  exact Nat.not_le.2 plan.lamports.toNat_lt

/-- A payer that is configured is the one in its file. -/
theorem load {path : Path} (hkeypair : config.keypair = some path) :
    KeypairFile.load around.readFile path = .ok plan.payer := by
  have hpayer := fits.payer
  rwa [hkeypair] at hpayer

end Fits

/-- The calls of a plan with their answers.  A payer from a file gets no airdrop. -/
def events (plan : Plan) (config : Config) : List Event :=
  match config.keypair with
  | none => [
      ⟨.handshake, .ok plan.version⟩,
      ⟨.fee, .ok plan.fee⟩,
      ⟨.airdrop plan.payer.publicKey plan.lamports, .ok plan.airdrop⟩,
      ⟨.confirm plan.airdrop, .ok ()⟩,
      ⟨.blockhash, .ok plan.blockhash⟩,
      ⟨.send plan.transaction, .ok plan.signature⟩,
      ⟨.confirm plan.signature, .ok ()⟩]
  | some _ => [
      ⟨.handshake, .ok plan.version⟩,
      ⟨.fee, .ok plan.fee⟩,
      ⟨.blockhash, .ok plan.blockhash⟩,
      ⟨.send plan.transaction, .ok plan.signature⟩,
      ⟨.confirm plan.signature, .ok ()⟩]

/-- What is shown at the end of a plan. -/
def receipt (plan : Plan) (config : Config) : Receipt where
  program := plan.program
  payer := plan.payer.publicKey
  lamports := plan.lamports
  airdrop := if config.keypair.isNone then some plan.airdrop else none
  transaction := plan.signature

end Plan

namespace Leg

def query (config : Config) (call : Call) (answer : call.Answer) : Leg :=
  ⟨call, answer, fun fault _ => .unreachable config.endpoint fault⟩

def hand (submission : Submission) (call : Call) (answer : call.Answer) : Leg :=
  ⟨call, answer, fun fault _ => .rejected submission fault⟩

def wait (step : Step) (submission : Submission) (signature : Signature) : Leg :=
  ⟨.confirm signature, (), fun fault flag =>
    if flag then .interrupted step else .unconfirmed submission signature fault⟩

@[simp] theorem event_query (config : Config) (call : Call) (answer : call.Answer) :
    (query config call answer).event = ⟨call, .ok answer⟩ := rfl

@[simp] theorem event_hand (submission : Submission) (call : Call) (answer : call.Answer) :
    (hand submission call answer).event = ⟨call, .ok answer⟩ := rfl

@[simp] theorem event_wait (step : Step) (submission : Submission) (signature : Signature) :
    (wait step submission signature).event = ⟨.confirm signature, .ok ()⟩ := rfl

@[simp] theorem call_query (config : Config) (call : Call) (answer : call.Answer) :
    (query config call answer).call = call := rfl

@[simp] theorem call_hand (submission : Submission) (call : Call) (answer : call.Answer) :
    (hand submission call answer).call = call := rfl

@[simp] theorem call_wait (step : Step) (submission : Submission) (signature : Signature) :
    (wait step submission signature).call = .confirm signature := rfl

@[simp] theorem blame_query (config : Config) (call : Call) (answer : call.Answer)
    (fault : LedgerFault) (flag : Bool) :
    (query config call answer).blame fault flag = .unreachable config.endpoint fault := rfl

@[simp] theorem blame_hand (submission : Submission) (call : Call) (answer : call.Answer)
    (fault : LedgerFault) (flag : Bool) :
    (hand submission call answer).blame fault flag = .rejected submission fault := rfl

@[simp] theorem blame_wait (step : Step) (submission : Submission) (signature : Signature)
    (fault : LedgerFault) :
    (wait step submission signature).blame fault false =
      .unconfirmed submission signature fault := rfl

end Leg

namespace Plan

/-- The queries that every probe begins with. -/
def queries (config : Config) (version : String) (fee : UInt64) : List Leg :=
  [.query config .handshake version, .query config .fee fee]

def funding (plan : Plan) : List Leg :=
  [.hand (.airdrop plan.lamports) (.airdrop plan.payer.publicKey plan.lamports) plan.airdrop,
    .wait .confirmAirdrop (.airdrop plan.lamports) plan.airdrop]

def submission (plan : Plan) (config : Config) : List Leg :=
  [.query config .blockhash plan.blockhash,
    .hand .transaction (.send plan.transaction) plan.signature,
    .wait .confirmTransaction .transaction plan.signature]

def legs (plan : Plan) (config : Config) : List Leg :=
  queries config plan.version plan.fee ++
    (if config.keypair.isNone then plan.funding else []) ++ plan.submission config

theorem map_event_legs (plan : Plan) (config : Config) :
    (plan.legs config).map Leg.event = plan.events config := by
  unfold legs events
  cases config.keypair <;> rfl

end Plan

/-- The itineraries that a probe may have before it. -/
inductive Itinerary.Planned (config : Config) (around : Surroundings) : Itinerary → Prop where
  /-- The program's address is none, and nothing is called. -/
  | badAddress (fault : Base58.Fault) (address : PublicKey.ofBase58 config.address = .error fault) :
      Planned config around ⟨[], .error (.failed (.badAddress config.address fault))⟩
  | tooLarge (program : PublicKey) (version : String) (fee : UInt64)
      (address : PublicKey.ofBase58 config.address = .ok program)
      (large : UInt64.size ≤ fee.toNat * config.multiplier.toNat) :
      Planned config around ⟨Plan.queries config version fee,
        .error (.failed (.airdropTooLarge fee config.multiplier))⟩
  | badKeypair (program : PublicKey) (version : String) (fee : UInt64) (path : Path)
      (fault : KeypairFile.Fault) (address : PublicKey.ofBase58 config.address = .ok program)
      (small : fee.toNat * config.multiplier.toNat < UInt64.size)
      (keypair : config.keypair = some path)
      (load : KeypairFile.load around.readFile path = .error fault) :
      Planned config around ⟨Plan.queries config version fee,
        .error (.failed (.badKeypair path fault.message))⟩
  | whole (plan : Plan) (fits : plan.Fits config around) :
      Planned config around ⟨plan.legs config, .ok (plan.receipt config)⟩

namespace Goes

open Probe

theorem await (step : Step) (submission : Submission) (signature : Signature)
    {rest : Itinerary → Prop} {next : (flag : Bool) → Dialogue Result} (h : Goes rest next) :
    Goes (fun it => ∃ tail, rest tail ∧
        it = ⟨.wait step submission signature :: tail.legs, tail.result⟩)
      fun flag => Probe.await step submission signature flag next := by
  refine (enter step (ask (.confirm signature) _ _ fun _ => h)).mono ?_
  rintro it ⟨-, tail, htail, rfl⟩
  exact ⟨tail, htail, rfl⟩

theorem giveAirdrop (payer : PublicKey) (lamports : UInt64) {rest : Signature → Itinerary → Prop}
    {next : Signature → (flag : Bool) → Dialogue Result}
    (h : ∀ signature, Goes (rest signature) (next signature)) :
    Goes (fun it => ∃ signature tail, rest signature tail ∧
        it = ⟨.hand (.airdrop lamports) (.airdrop payer lamports) signature ::
          .wait .confirmAirdrop (.airdrop lamports) signature :: tail.legs, tail.result⟩)
      fun flag => Probe.giveAirdrop payer lamports flag next := by
  refine (enter _ (ask (.airdrop payer lamports) _ _ fun signature =>
    await .confirmAirdrop (.airdrop lamports) signature (h signature))).mono ?_
  rintro it ⟨signature, -, ⟨tail, htail, rfl⟩, rfl⟩
  exact ⟨signature, tail, htail, rfl⟩

/-- The probe of a program always has a transaction, so no run ends for want of one. -/
theorem callProgram (config : Config) (payer : Keypair) (program : PublicKey)
    (receipt : Signature → Receipt) :
    Goes (fun it => ∃ blockhash transaction signature,
        Transaction.signedBy payer blockhash (.probe program) = .ok transaction ∧
        it = ⟨[.query config .blockhash blockhash,
          .hand .transaction (.send transaction) signature,
          .wait .confirmTransaction .transaction signature], .ok (receipt signature)⟩)
      fun flag => Probe.callProgram config payer program flag receipt := by
  let sending (blockhash : BlockHash) (it : Itinerary) : Prop := ∃ transaction signature,
    Transaction.signedBy payer blockhash (.probe program) = .ok transaction ∧
    it = ⟨[.hand .transaction (.send transaction) signature,
      .wait .confirmTransaction .transaction signature], .ok (receipt signature)⟩
  refine enter _ (enter _ ((ask .blockhash _ sending fun blockhash => ?_).mono ?_))
  · -- Whatever the block hash, there is a transaction to hand in.
    obtain ⟨transaction, htransaction⟩ :=
      Transaction.exists_signedBy_probe payer blockhash program
    simp only [htransaction]
    refine (ask (.send transaction) _ _ fun signature =>
      await .confirmTransaction .transaction signature (done (.ok (receipt signature)))).mono ?_
    rintro it ⟨signature, -, ⟨-, rfl, rfl⟩, rfl⟩
    exact ⟨transaction, signature, htransaction, rfl⟩
  · rintro it ⟨blockhash, -, ⟨transaction, signature, htransaction, rfl⟩, rfl⟩
    exact ⟨blockhash, transaction, signature, htransaction, rfl⟩

/-- A probe that knows its program and its airdrop's size goes along a whole plan, unless the key
pair file holds no payer. -/
theorem payAndCall (config : Config) (around : Surroundings) (program : PublicKey)
    (version : String) (fee lamports : UInt64)
    (hprogram : PublicKey.ofBase58 config.address = .ok program)
    (hlamports : fee.toNat * config.multiplier.toNat = lamports.toNat) :
    Goes (fun it => Itinerary.Planned config around
        ⟨Plan.queries config version fee ++ it.legs, it.result⟩)
      (Probe.payAndCall config around program lamports) := by
  have hfits (payer : Keypair) (airdrop : Signature) (blockhash : BlockHash)
      (transaction : Transaction) (signature : Signature)
      (hpayer : match config.keypair with
        | none => payer = around.freshPayer
        | some path => KeypairFile.load around.readFile path = .ok payer)
      (htransaction : Transaction.signedBy payer blockhash (.probe program) = .ok transaction) :
      Plan.Fits ⟨program, payer, version, fee, lamports, airdrop, blockhash, transaction, signature⟩
        config around := by
    obtain ⟨hsignatures, -, hkey, hdate⟩ := Transaction.signatures_of_signedBy htransaction
    exact ⟨hprogram, hlamports.symm, hpayer, htransaction, hsignatures, hkey, hdate⟩
  unfold Probe.payAndCall
  cases hkeypair : config.keypair with
  | some path =>
    cases hload : KeypairFile.load around.readFile path with
    | error fault =>
      simp only [hload]
      refine (done _).mono ?_
      rintro it rfl
      have hsmall := hlamports ▸ lamports.toNat_lt
      exact .badKeypair program version fee path fault hprogram hsmall hkeypair hload
    | ok payer =>
      simp only [hload]
      refine (callProgram config payer program _).mono ?_
      rintro it ⟨blockhash, transaction, signature, htransaction, rfl⟩
      -- There is no airdrop, so any signature does as the plan's.
      have hplan := Itinerary.Planned.whole _ (hfits payer (.replicate 64 0) blockhash transaction
        signature (by simp only [hkeypair, hload]) htransaction)
      simpa [Plan.legs, Plan.receipt, Plan.submission, hkeypair] using hplan
  | none =>
    refine (giveAirdrop _ lamports fun airdrop => callProgram config _ program _).mono ?_
    rintro it ⟨airdrop, -, ⟨blockhash, transaction, signature, htransaction, rfl⟩, rfl⟩
    have hplan := Itinerary.Planned.whole _ (hfits around.freshPayer airdrop blockhash transaction
      signature (by simp only [hkeypair]) htransaction)
    simpa [Plan.legs, Plan.receipt, Plan.funding, Plan.submission, hkeypair] using hplan

theorem course (config : Config) (around : Surroundings) :
    Goes (Itinerary.Planned config around) (Probe.course config around) := by
  refine enter _ ?_
  cases hprogram : PublicKey.ofBase58 config.address with
  | error fault =>
    simp only [target, hprogram]
    refine (done _).mono ?_
    rintro it rfl
    exact .badAddress fault hprogram
  | ok program =>
    simp only [target, hprogram]
    refine enter _ ((ask .handshake _ (fun version it => Itinerary.Planned config around
      ⟨.query config .handshake version :: it.legs, it.result⟩) fun version => ?_).mono ?_)
    · refine enter _ ((ask .fee _ (fun fee it => Itinerary.Planned config around
        ⟨Plan.queries config version fee ++ it.legs, it.result⟩) fun fee => ?_).mono ?_)
      · cases hsize : Airdrop.size? fee config.multiplier with
        | none =>
          refine (done _).mono ?_
          rintro it rfl
          exact .tooLarge program version fee hprogram (Airdrop.size?_eq_none_iff.1 hsize)
        | some lamports =>
          exact enter _ (payAndCall config around program version fee lamports hprogram
            (Airdrop.size?_eq_some_iff.1 hsize))
      · rintro it ⟨fee, tail, htail, rfl⟩
        exact htail
    · rintro it ⟨version, tail, htail, rfl⟩
      exact htail

end Goes

/-- Every run of a probe is a run along one of the itineraries that it may have before it. -/
theorem Probe.exists_along_run {σ : Type} (config : Config) (around : Surroundings)
    (ledger : Ledger σ) (state : σ) (flag : Bool) :
    let p := run config around ledger state flag
    ∃ it, Itinerary.Planned config around it ∧ Along it.result it.legs p.history p.result p.flag :=
  Goes.course config around σ ledger state flag

/-- A run that succeeds is a whole plan. -/
theorem Probe.exists_plan_of_ok {σ : Type} {config : Config} {around : Surroundings}
    {ledger : Ledger σ} {state : σ} {flag : Bool} {receipt : Receipt}
    (h : (run config around ledger state flag).result = .ok receipt) :
    ∃ plan : Plan, plan.Fits config around ∧
      (run config around ledger state flag).history = plan.events config ∧
      receipt = plan.receipt config := by
  obtain ⟨it, hit, along⟩ := exists_along_run config around ledger state flag
  rw [h] at along
  obtain ⟨hhistory, hresult⟩ := along.of_ok
  cases hit with
  | badAddress fault _ => cases hresult
  | tooLarge program version fee _ _ => cases hresult
  | badKeypair program version fee path fault _ _ _ _ => cases hresult
  | whole plan fits =>
    rw [Plan.map_event_legs] at hhistory
    exact ⟨plan, fits, hhistory, Except.ok.inj hresult⟩

end ClusterProbe
