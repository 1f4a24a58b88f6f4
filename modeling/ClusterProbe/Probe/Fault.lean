import ClusterProbe.Files
import ClusterProbe.Ledger.Fault
import ClusterProbe.Probe.Step
import ClusterProbe.Text.Utf8

/-!
# Failed probes

Each way in which a probe can fail, with what the report of it shows.
-/

namespace ClusterProbe

/-- What is wrong with a program address, in words. -/
def Base58.Fault.message : Base58.Fault → String
  | .wrongSize => "String is the wrong size"
  | .invalid => "Invalid Base58 string"

/-- What a probe asks the cluster to carry out. -/
inductive Submission where
  | airdrop (lamports : UInt64)
  | transaction
deriving DecidableEq, Repr

def Submission.failure : Submission → String
  | .airdrop lamports => "airdrop of " ++ Decimal.text lamports.toNat ++ " lamports not confirmed"
  | .transaction => "transaction not confirmed"

inductive ProbeFault where
  | unreachable (endpoint : String) (source : LedgerFault)
  | badAddress (address : String) (source : Base58.Fault)
  | badKeypair (path : Path) (reason : String)
  | rejected (submission : Submission) (source : LedgerFault)
  /-- The node took a submission under a signature, and it was not confirmed. -/
  | unconfirmed (submission : Submission) (signature : Signature) (source : LedgerFault)
  | airdropTooLarge (fee multiplier : UInt64)
  | interrupted (step : Step)

namespace ProbeFault

def message : ProbeFault → String
  | unreachable endpoint _ => "rpc endpoint " ++ endpoint ++ " unreachable"
  | badAddress address _ => "invalid program address " ++ Text.quoted address
  | badKeypair path reason =>
    "cannot read payer keypair " ++ Utf8.decodeLossy path ++ ": " ++ reason
  | rejected submission _ => submission.failure ++ " (request rejected)"
  | unconfirmed submission signature _ =>
    submission.failure ++ " (signature " ++ signature.toBase58 ++ ")"
  | airdropTooLarge fee multiplier =>
    "airdrop amount overflows: " ++ Decimal.text fee.toNat ++ " lamports x " ++
      Decimal.text multiplier.toNat
  | interrupted step => "interrupted before " ++ step.name

/-- The texts of all that caused the fault, outermost first. -/
def causes : ProbeFault → List String
  | unreachable _ source => source.chain
  | badAddress _ source => [source.message]
  | rejected _ source => source.chain
  | unconfirmed _ _ source => source.chain
  | badKeypair .. => []
  | airdropTooLarge .. => []
  | interrupted _ => []

end ProbeFault

end ClusterProbe
