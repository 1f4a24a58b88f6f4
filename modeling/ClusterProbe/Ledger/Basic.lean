import ClusterProbe.Ledger.Fault
import ClusterProbe.Probe.Step
import ClusterProbe.Transaction

/-!
# Ledgers

The few cluster operations that a probe needs, as calls with answers.  A ledger answers each call
from a state of its own, so an answer may depend on everything that was called before.  While a call
is under way an interrupt may arrive, and so it may between two calls; once up, the interrupt flag
stays up.
-/

namespace ClusterProbe

/-- What stops an operation: an error that it reports, or a crash of the whole program. -/
inductive Abort (ε : Type) where
  | failed (error : ε)
  | crashed (text : String)

def Abort.map {ε ε' : Type} (f : ε → ε') : Abort ε → Abort ε'
  | failed error => failed (f error)
  | crashed text => crashed text

inductive Call where
  /-- Asks for the version of the node, and so checks the connection. -/
  | handshake
  | fee
  | airdrop (account : PublicKey) (lamports : UInt64)
  /-- Waits until a transaction is confirmed. -/
  | confirm (signature : Signature)
  | blockhash
  | send (transaction : Transaction)

abbrev Call.Answer : Call → Type
  | .handshake => String
  | .fee => UInt64
  | .airdrop .. => Signature
  | .confirm _ => Unit
  | .blockhash => BlockHash
  | .send _ => Signature

abbrev Call.Outcome (call : Call) : Type := Except (Abort LedgerFault) call.Answer

/-- A ledger with states of type `σ`: from a state and the interrupt flag, the outcome of a call,
the flag as raised during the call, and the next state. -/
structure Ledger (σ : Type) where
  answer : σ → (flag : Bool) → (call : Call) → call.Outcome × Bool × σ
  /-- An interrupt arrives before the flag is looked at for a step. -/
  arrives : σ → Step → Bool := fun _ _ => false

end ClusterProbe
