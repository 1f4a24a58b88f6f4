import ClusterProbe.Ledger.Basic

/-!
# Scripted ledgers

A ledger that has its answers prepared, one for each kind of call and one for each confirmation in
turn.
-/

namespace ClusterProbe

/-- A prepared outcome, and whether an interrupt arrives before it. -/
structure Prepared (α : Type) where
  answer : α
  fault : Option LedgerFault := none
  raise : Bool := false

def Prepared.outcome {α : Type} (p : Prepared α) : Except (Abort LedgerFault) α :=
  match p.fault with
  | none => .ok p.answer
  | some fault => .error (.failed fault)

structure LedgerScript where
  handshake : Prepared String := { answer := "1.18.26" }
  fees : Prepared UInt64 := { answer := 5000 }
  airdrop : Prepared Signature := { answer := .replicate 64 7 }
  /-- Confirmations in the order of the calls; those after the last one succeed. -/
  confirm : List (Prepared Unit) := []
  blockhash : Prepared BlockHash := { answer := .replicate 32 9 }
  /-- Without a signature of its own, the transaction's is given back. -/
  send : Prepared (Option Signature) := { answer := none }

/-- The ledger that follows a script; its state is the confirmations to come. -/
def LedgerScript.ledger (script : LedgerScript) : Ledger (List (Prepared Unit)) where
  answer confirmations _ call :=
    match call with
    | .handshake => (script.handshake.outcome, script.handshake.raise, confirmations)
    | .fee => (script.fees.outcome, script.fees.raise, confirmations)
    | .airdrop .. => (script.airdrop.outcome, script.airdrop.raise, confirmations)
    | .confirm _ =>
      let prepared := confirmations.headD { answer := () }
      (prepared.outcome, prepared.raise, confirmations.tail)
    | .blockhash => (script.blockhash.outcome, script.blockhash.raise, confirmations)
    | .send transaction =>
      let own := transaction.signature?.getD (.replicate 64 0)
      (script.send.outcome.map (·.getD own), script.send.raise, confirmations)

end ClusterProbe
