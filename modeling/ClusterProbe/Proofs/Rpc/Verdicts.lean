import ClusterProbe.Proofs.Probe.Waits
import ClusterProbe.Proofs.Rpc.Causes
import ClusterProbe.Proofs.Rpc.Run

/-!
# What a probe tells of a wait that fails

Over the client of a node a wait fails for one of four causes.  With the flag down the probe tells
the cause; with the flag up it tells of an interrupt, whatever the cause was.
-/

namespace ClusterProbe

namespace Rpc.Client

variable (c : Client) {moments : Interrupts} {session session' : Session} {n n' : Nat}
  {flag raised : Bool} {signature : Signature} {fault : LedgerFault}

/-- A confirmation that fails leaves the exchanges in the log that the cause of it comes after, and
the flag up if it has seen an interrupt. -/
theorem exists_cause_of_answer
    (h : (c.ledger.interrupted moments).answer (session, n) flag (.confirm signature) =
      (.error (.failed fault), raised, (session', n'))) :
    ∃ up xs cause,
      session'.log = (xs.map (⟨.getSignatureStatuses signature, ·⟩)).reverse ++ session.log ∧
      c.Fails ⟨signature, c.confirmation.timeout⟩ up 0 xs cause ∧
      fault = cause.fault ⟨signature, c.confirmation.timeout⟩ xs.length ∧
      (cause = .interrupt → raised = true) := by
  let start : Session := { session with flag := flag || moments.before n }
  let e := c.ending ⟨signature, c.confirmation.timeout⟩ start
  let xs := start.upcoming e.polls
  -- The flag is up after the wait if it was up before it or rose in one of its exchanges.
  have hanswer : (c.ledger.interrupted moments).answer (session, n) flag (.confirm signature) =
      (e.outcome, moments.during n || (start.flag || xs.any (·.raised)),
        (start.after (.getSignatureStatuses signature) xs, n + 1)) := by
    simp only [Ledger.interrupted, ledger, perform]
    rw [c.run_confirm]
    rfl
  rw [hanswer] at h
  simp only [Prod.mk.injEq] at h
  obtain ⟨houtcome, hraised, hsession, -⟩ := h
  obtain ⟨cause, hfails, hcause⟩ := exists_cause_of_ending houtcome
  have hlength : xs.length = e.polls := start.length_upcoming e.polls
  refine ⟨start.flag, xs, cause, ?_, hfails, ?_, fun h => ?_⟩
  · rw [← hsession]
    rfl
  · rw [hlength]
    exact hcause
  · rw [← hraised, hfails.raised h, Bool.or_true]

end Rpc.Client

namespace Program

/-- A wait that fails has a cause that its exchanges lead up to.  With the flag down at the end the
probe tells what was not confirmed, the signature that was waited for, and the fault of the cause;
with the flag up it tells the step as interrupted instead, for each of the causes.  The flag is
always up after a wait that was given up because of it, and a step that has begun is told as
interrupted after such failed waits only. -/
theorem result_interruptedProbe (config : Config) (listens : String × Nat → Bool)
    (around : Surroundings) (replies : List Rpc.Reply) (flag : Bool) (moments : Interrupts) :
    let c := client config listens
    let p := interruptedProbe config listens around replies flag moments
    (∀ signature fault, ⟨.confirm signature, .error (.failed fault)⟩ ∈ p.history →
      ∃ step submission up xs cause before,
        FailedWait p.history signature fault step submission ∧
        p.state.1.log = (xs.map (⟨.getSignatureStatuses signature, ·⟩)).reverse ++ before ∧
        c.Fails ⟨signature, config.confirmation.timeout⟩ up 0 xs cause ∧
        fault = cause.fault ⟨signature, config.confirmation.timeout⟩ xs.length ∧
        (cause = .interrupt → p.flag = true) ∧
        p.result = .error (.failed
          (if p.flag then .interrupted step else .unconfirmed submission signature fault))) ∧
    ∀ step, p.result = .error (.failed (.interrupted step)) → .begun step ∈ p.trail →
      p.flag = true ∧ ∃ signature fault submission,
        FailedWait p.history signature fault step submission := by
  intro c p
  refine ⟨fun signature fault hmem => ?_, fun step hresult hbegun => ?_⟩
  · obtain ⟨step, submission, hwait, hresult⟩ :=
      Probe.result_of_failed_wait config around _ _ flag hmem
    -- The failed wait was the last call, so its exchanges are the latest in the log.
    obtain ⟨⟨session, n⟩, flag', raised, hanswer, hup⟩ :=
      Dialogue.exists_answer_of_getLast? _ _ _ _ hwait.getLast?
    obtain ⟨up, xs, cause, hlog, hfails, hfault, hraised⟩ := c.exists_cause_of_answer hanswer
    refine ⟨step, submission, up, xs, cause, session.log, hwait, hlog, hfails, hfault,
      fun hcause => hup ?_, hresult⟩
    rw [hraised hcause, Bool.or_true]
  · obtain ⟨hup, signature, fault, hmem⟩ := Probe.failed_wait_of_interrupted hresult hbegun
    obtain ⟨step', submission, hwait, hresult'⟩ :=
      Probe.result_of_failed_wait config around _ _ flag hmem
    rw [hup, if_pos rfl] at hresult'
    obtain rfl : step = step' := by simpa using hresult.symm.trans hresult'
    exact ⟨hup, signature, fault, submission, hwait⟩

/-- The replies of a node that takes an airdrop and then reports it as failed, with an interrupt that
arrives with the report. -/
def failingAirdrop : List Rpc.Reply :=
  let reply (result : Json) : Rpc.Reply :=
    { body := fun _ => Rpc.Exchange.bodyOf (.object [("result", result)]) }
  let inContext (value : Json) : Rpc.Reply :=
    reply (.object [("context", .object [("slot", .ofNat 1)]), ("value", value)])
  let version := reply (.object [("solana-core", .string "1.18.26")])
  let status : Json := .object [("slot", .ofNat 1),
    ("status", .object [("Err", .string "AccountInUse")])]
  [version, version,
    inContext (.object [("blockhash", .string "11111111111111111111111111111111"),
      ("lastValidBlockHeight", .ofNat 1)]),
    inContext (.ofNat 5000),
    reply (.string "1111111111111111111111111111111111111111111111111111111111111111"),
    { inContext (.array [status]) with raise := true }]

/-- The node has reported the transaction that was waited for as failed. -/
def isVerdict : Event → Bool
  | ⟨.confirm _, .error (.failed (.transaction _))⟩ => true
  | _ => false

/-- The wait for an airdrop is told as interrupted. -/
def isInterruptedAirdrop : Probe.Result → Bool
  | .error (.failed (.interrupted .confirmAirdrop)) => true
  | _ => false

theorem exists_verdict {history : List Event} (h : history.any isVerdict = true) :
    ∃ signature fault, ⟨.confirm signature, .error (.failed (.transaction fault))⟩ ∈ history := by
  obtain ⟨event, hmem, hevent⟩ := List.any_eq_true.1 h
  unfold isVerdict at hevent
  split at hevent
  · exact ⟨_, _, hmem⟩
  · cases hevent

theorem eq_of_isInterruptedAirdrop {result : Probe.Result} (h : isInterruptedAirdrop result = true) :
    result = .error (.failed (.interrupted .confirmAirdrop)) := by
  unfold isInterruptedAirdrop at h
  split at h
  · rfl
  · cases h

/-- The node reports the airdrop as failed, and the probe tells of the interrupt alone. -/
theorem interruptedProbe_hides_verdict :
    let p := interruptedProbe { endpoint := "http://[::1]" } (fun _ => true)
      ⟨fun _ => .error .notFound, .ofSeed (.replicate 32 0)⟩ failingAirdrop false .none
    (∃ signature fault,
      ⟨.confirm signature, .error (.failed (.transaction fault))⟩ ∈ p.history) ∧
    p.result = .error (.failed (.interrupted .confirmAirdrop)) := by
  intro p
  have hrun : (p.history.any isVerdict && isInterruptedAirdrop p.result) = true := by
    decide +kernel
  obtain ⟨hverdict, hinterrupted⟩ := Bool.and_eq_true_iff.1 hrun
  exact ⟨exists_verdict hverdict, eq_of_isInterruptedAirdrop hinterrupted⟩

end Program

end ClusterProbe
