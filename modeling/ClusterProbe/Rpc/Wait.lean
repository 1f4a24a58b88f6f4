import ClusterProbe.Config
import ClusterProbe.Ledger.Basic

/-!
# Waiting for a signature

A wait looks at a signature again and again, until the transaction has landed or failed, a look
fails, the time is up, or an interrupt has arrived.  In each turn the flag is read first, then the
node is asked, and only after an answer that decides nothing is the clock read.  A wait is therefore
decided by its turns in order: what the flag, the node and the clock say in each of them.
-/

namespace ClusterProbe.Rpc

/-- What one look at a signature shows. -/
inductive Look where
  /-- The transaction has not got as far as it should. -/
  | pending
  | landed
  | failed (fault : TransactionFault)
  | unanswered (abort : Abort LedgerFault)

structure Turn where
  /-- The interrupt flag at the beginning. -/
  flag : Bool
  look : Look
  /-- The time in nanoseconds from the beginning of the wait to the end of the look. -/
  elapsed : Nat

/-- How a wait ended, and how often the node was asked. -/
structure Ending where
  polls : Nat
  outcome : Except (Abort LedgerFault) Unit

structure Wait where
  signature : Signature
  timeout : Duration

namespace Wait

/-- Looks are counted in 32 bits. -/
def pollLimit : Nat := UInt32.size

/-- The end of a wait that sees an interrupt after some looks. -/
def interrupted (w : Wait) (polls : Nat) : Ending :=
  ⟨polls, .error (.failed (.waitInterrupted w.signature polls))⟩

/-- The end of a wait that has gone on for too long. -/
def expired (w : Wait) (polls : Nat) : Ending :=
  ⟨polls, .error (.failed (.waitExpired w.signature w.timeout.seconds polls))⟩

/-- How a turn ends a wait after some looks, if it does. -/
def decide (w : Wait) (polls : Nat) (turn : Turn) : Option Ending :=
  if turn.flag then some (w.interrupted polls)
  else if polls + 1 = pollLimit then some ⟨polls, .error (.crashed "attempt to add with overflow")⟩
  else match turn.look with
    | .landed => some ⟨polls + 1, .ok ()⟩
    | .failed fault => some ⟨polls + 1, .error (.failed (.transaction fault))⟩
    | .unanswered abort => some ⟨polls + 1, .error abort⟩
    | .pending =>
      if w.timeout.toNanos ≤ turn.elapsed then some (w.expired (polls + 1)) else none

/-- How some turns end a wait after some looks, if they do. -/
def ending (w : Wait) (polls : Nat) : List Turn → Option Ending
  | [] => none
  | turn :: rest =>
    match w.decide polls turn with
    | some e => some e
    | none => w.ending (polls + 1) rest

end Wait

end ClusterProbe.Rpc
