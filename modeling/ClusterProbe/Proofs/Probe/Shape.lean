import ClusterProbe.Probe.Course
import ClusterProbe.Proofs.Transaction

/-!
# The shape of a probe

A probe comes to its steps in their order and makes its calls right after them.  Only the transaction
is sent right after another call, the one for its block hash.  What each such part hands on to a
dialogue holds of a whole probe, by induction on its shape.
-/

namespace ClusterProbe

/-- The place of a step in the order of all steps. -/
def Step.place : Step → Nat
  | decodeProgram => 0
  | connect => 1
  | queryFees => 2
  | generatePayer => 3
  | requestAirdrop => 4
  | confirmAirdrop => 5
  | buildInstruction => 6
  | submitTransaction => 7
  | confirmTransaction => 8

open Probe

/-- The dialogues, one for each flag to begin with, that come to no step before the place `n`. -/
inductive Shaped : (n : Nat) → ((flag : Bool) → Dialogue Probe.Result) → Prop where
  /-- Only a step is told as interrupted. -/
  | done {n : Nat} {result : Probe.Result}
      (told : ∀ step, result ≠ .error (.failed (.interrupted step))) :
      Shaped n fun _ => .done result
  | enter {n : Nat} (step : Step) (place : n ≤ step.place)
      {next : (flag : Bool) → Dialogue Probe.Result} (rest : Shaped (step.place + 1) next) :
      Shaped n fun flag => Probe.enter step flag (next flag)
  | call {n : Nat} (step : Step) (place : n ≤ step.place) {call : Call}
      (waits : ∀ signature, call ≠ .confirm signature) (dates : call ≠ .blockhash)
      {blame : LedgerFault → ProbeFault} (told : ∀ fault step, blame fault ≠ .interrupted step)
      {next : call.Answer → (flag : Bool) → Dialogue Probe.Result}
      (rest : ∀ answer, Shaped (step.place + 1) (next answer)) :
      Shaped n fun flag => Probe.enter step flag (Probe.ask call (fun fault _ => blame fault) next)
  /-- The transaction is sent as soon as there is a block hash for it. -/
  | submit {n : Nat} (step : Step) (place : n ≤ step.place) (endpoint : String)
      (transaction : BlockHash → Transaction)
      {next : Signature → (flag : Bool) → Dialogue Probe.Result}
      (rest : ∀ signature, Shaped (step.place + 1) (next signature)) :
      Shaped n fun flag => Probe.enter step flag <|
        Probe.ask .blockhash (fun fault _ => .unreachable endpoint fault) fun blockhash _ =>
        Probe.hand .transaction (.send (transaction blockhash)) next
  | await {n : Nat} (step : Step) (place : n ≤ step.place) (submission : Submission)
      (signature : Signature) {next : (flag : Bool) → Dialogue Probe.Result}
      (rest : Shaped (step.place + 1) next) :
      Shaped n fun flag => Probe.await step submission signature flag next

namespace Shaped

theorem fail {n : Nat} {fault : ProbeFault} (told : ∀ step, fault ≠ .interrupted step) :
    Shaped n fun _ => Probe.fail fault :=
  done fun step h => told step (Abort.failed.inj (Except.error.inj h))

theorem query {n : Nat} (config : Config) (step : Step) (place : n ≤ step.place) {call : Call}
    (waits : ∀ signature, call ≠ .confirm signature) (dates : call ≠ .blockhash)
    {next : call.Answer → (flag : Bool) → Dialogue Probe.Result}
    (rest : ∀ answer, Shaped (step.place + 1) (next answer)) :
    Shaped n fun flag => Probe.enter step flag (Probe.query config call next) :=
  .call step place waits dates (fun _ _ => by simp) rest

theorem callProgram (config : Config) (payer : Keypair) (program : PublicKey)
    (receipt : Signature → Receipt) {n : Nat} (place : n ≤ Step.buildInstruction.place) :
    Shaped n fun flag => Probe.callProgram config payer program flag receipt := by
  -- Whatever the block hash, there is a transaction to send.
  let transaction (blockhash : BlockHash) : Transaction :=
    ⟨[payer.sign (Message.ofProbe payer.publicKey program blockhash).octets],
      .ofProbe payer.publicKey program blockhash⟩
  have hwait (signature : Signature) : Shaped Step.confirmTransaction.place fun flag =>
      Probe.await .confirmTransaction .transaction signature flag fun _ =>
        .done (.ok (receipt signature)) :=
    .await _ (Nat.le_refl _) _ _ (.done (by simp))
  have hsubmit :=
    Shaped.submit .submitTransaction (Nat.le_refl _) config.endpoint transaction hwait
  refine .enter _ place ?_
  simp only [Transaction.signedBy_probe]
  exact hsubmit

theorem payAndCall (config : Config) (around : Surroundings) (program : PublicKey)
    (lamports : UInt64) :
    Shaped Step.requestAirdrop.place (Probe.payAndCall config around program lamports) := by
  unfold Probe.payAndCall
  cases config.keypair with
  | none =>
    refine .call _ (by decide) (by simp) (by simp) (fun _ _ => by simp) fun signature => ?_
    exact .await _ (by decide) _ _ (callProgram config _ program _ (by decide))
  | some path =>
    dsimp only
    cases KeypairFile.load around.readFile path with
    | error fault => exact fail (by simp)
    | ok payer => exact callProgram config payer program _ (by decide)

theorem course (config : Config) (around : Surroundings) :
    Shaped Step.decodeProgram.place (Probe.course config around) := by
  refine .enter _ (by decide) ?_
  unfold target
  cases PublicKey.ofBase58 config.address with
  | error fault => exact fail (by simp)
  | ok program =>
    refine query config _ (by decide) (by simp) (by simp) fun version => ?_
    refine query config _ (by decide) (by simp) (by simp) fun fee => ?_
    cases Airdrop.size? fee config.multiplier with
    | none => exact fail (by simp)
    | some lamports => exact .enter _ (by decide) (payAndCall config around program lamports)

end Shaped

end ClusterProbe
