import ClusterProbe.Airdrop
import ClusterProbe.Config
import ClusterProbe.Dialogue
import ClusterProbe.KeypairFile
import ClusterProbe.Probe.Fault

/-!
# The course of a probe

A probe checks that a program on a cluster can be called.  It asks the node for its version and its
fees, takes or generates a payer, gives a generated payer an airdrop and waits for it, and then
sends one transaction to the program and waits for that.  Nothing is tried twice: the first failure
ends the probe.  The interrupt flag is looked at before every step; a wait that fails with the flag
up counts as interrupted.
-/

namespace ClusterProbe

/-- What a probe that succeeded has to show. -/
structure Receipt where
  program : PublicKey
  payer : PublicKey
  /-- The size of the airdrop, whether or not there was one. -/
  lamports : UInt64
  /-- The signature of the airdrop; none if the payer came from a file. -/
  airdrop : Option Signature
  transaction : Signature
deriving DecidableEq

structure Surroundings where
  readFile : Path → Except FileFault (List UInt8)
  /-- The payer that is used if none is configured. -/
  freshPayer : Keypair

namespace Probe

abbrev Result := Except (Abort ProbeFault) Receipt

def fail (fault : ProbeFault) : Dialogue Result := .done (.error (.failed fault))

/-- Goes on to a step unless the interrupt flag is up. -/
def enter (step : Step) (flag : Bool) (next : Dialogue Result) : Dialogue Result :=
  let stop := fail (.interrupted step)
  if flag then stop else .begin step stop next

/-- Makes a call, and goes on if it succeeds. -/
def ask (call : Call) (blame : LedgerFault → (flag : Bool) → ProbeFault)
    (next : call.Answer → (flag : Bool) → Dialogue Result) : Dialogue Result :=
  .ask call fun outcome flag =>
    match outcome with
    | .ok answer => next answer flag
    | .error abort => .done (.error (abort.map (blame · flag)))

def query (config : Config) (call : Call)
    (next : call.Answer → (flag : Bool) → Dialogue Result) : Dialogue Result :=
  ask call (fun fault _ => .unreachable config.endpoint fault) next

def hand (submission : Submission) (call : Call)
    (next : call.Answer → (flag : Bool) → Dialogue Result) : Dialogue Result :=
  ask call (fun fault _ => .rejected submission fault) next

/-- Waits for a submission that was taken under a signature. -/
def await (step : Step) (submission : Submission) (signature : Signature) (flag : Bool)
    (next : (flag : Bool) → Dialogue Result) : Dialogue Result :=
  enter step flag <|
  ask (.confirm signature)
    (fun fault flag =>
      if flag then .interrupted step else .unconfirmed submission signature fault)
    fun _ flag => next flag

def target (config : Config) : Except ProbeFault PublicKey :=
  match PublicKey.ofBase58 config.address with
  | .ok program => .ok program
  | .error fault => .error (.badAddress config.address fault)

/-- Works out the size of the airdrop. -/
def sizeAirdrop (config : Config) (flag : Bool)
    (next : (lamports : UInt64) → (flag : Bool) → Dialogue Result) : Dialogue Result :=
  enter .queryFees flag <|
  query config .fee fun fee flag =>
    match Airdrop.size? fee config.multiplier with
    | some lamports => next lamports flag
    | none => fail (.airdropTooLarge fee config.multiplier)

def giveAirdrop (payer : PublicKey) (lamports : UInt64) (flag : Bool)
    (next : Signature → (flag : Bool) → Dialogue Result) : Dialogue Result :=
  enter .requestAirdrop flag <|
  hand (.airdrop lamports) (.airdrop payer lamports) fun signature flag =>
  await .confirmAirdrop (.airdrop lamports) signature flag fun flag => next signature flag

def callProgram (config : Config) (payer : Keypair) (program : PublicKey) (flag : Bool)
    (receipt : Signature → Receipt) : Dialogue Result :=
  enter .buildInstruction flag <|
  enter .submitTransaction flag <|
  -- No step lies between the block hash and the transaction, so the flag is not looked at there.
  query config .blockhash fun blockhash _ =>
    match Transaction.signedBy payer blockhash (.probe program) with
    | .error fault => .done (.error (.crashed fault.message))
    | .ok transaction =>
      hand .transaction (.send transaction) fun signature flag =>
      await .confirmTransaction .transaction signature flag fun _ =>
        .done (.ok (receipt signature))

/-- Calls the program with the payer of the configured file, or with a generated one that gets its
airdrop first. -/
def payAndCall (config : Config) (around : Surroundings) (program : PublicKey) (lamports : UInt64)
    (flag : Bool) : Dialogue Result :=
  match config.keypair with
  | some path =>
    match KeypairFile.load around.readFile path with
    | .error fault => fail (.badKeypair path fault.message)
    | .ok payer =>
      callProgram config payer program flag fun signature =>
        ⟨program, payer.publicKey, lamports, none, signature⟩
  | none =>
    let payer := around.freshPayer
    giveAirdrop payer.publicKey lamports flag fun airdrop flag =>
      callProgram config payer program flag fun signature =>
        ⟨program, payer.publicKey, lamports, some airdrop, signature⟩

/-- The whole of a probe, from a given flag on. -/
def course (config : Config) (around : Surroundings) (flag : Bool) : Dialogue Result :=
  enter .decodeProgram flag <|
  match target config with
  | .error fault => fail fault
  | .ok program =>
    enter .connect flag <|
    query config .handshake fun _ flag =>
    sizeAirdrop config flag fun lamports flag =>
    enter .generatePayer flag <|
    payAndCall config around program lamports flag

/-- A probe against a ledger, from a state of it and a flag on. -/
def run {σ : Type} (config : Config) (around : Surroundings) (ledger : Ledger σ) (state : σ)
    (flag : Bool) : Played σ Result :=
  (course config around flag).play ledger state flag

end Probe

end ClusterProbe
