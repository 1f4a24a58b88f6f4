import ClusterProbe.Proofs.Rpc.Wait

/-!
# Waits that fail

A wait fails for one of four causes, and each of them leaves its own fault.  Which one it is follows
from what the flag, the node and the clock say in the turns of the wait, one after the other.
-/

namespace ClusterProbe.Rpc

/-- Why a wait has failed. -/
inductive Cause where
  /-- The flag was up when the node was about to be asked. -/
  | interrupt
  /-- The node reported the transaction as failed. -/
  | verdict (fault : TransactionFault)
  /-- The node could not be asked, or its answer could not be read. -/
  | unanswered (fault : LedgerFault)
  /-- The time was up after an answer that decided nothing. -/
  | timeout

/-- The fault of a wait that has failed for a cause after some polls. -/
def Cause.fault (w : Wait) (polls : Nat) : Cause → LedgerFault
  | interrupt => .waitInterrupted w.signature polls
  | verdict fault => .transaction fault
  | unanswered fault => fault
  | timeout => .waitExpired w.signature w.timeout.seconds polls

@[simp] theorem Session.upcoming_zero (s : Session) : s.upcoming 0 = [] := by
  simp [upcoming]

@[simp] theorem Session.length_upcoming (s : Session) (n : Nat) : (s.upcoming n).length = n := by
  rw [upcoming, List.length_append, List.length_take, List.length_replicate]
  omega

/-- A wait goes on after a turn with the flag down that shows nothing, while there is time. -/
theorem Wait.Decides.of_none {w : Wait} {polls elapsed : Nat} {flag : Bool} {look : Look}
    (h : w.Decides polls ⟨flag, look, elapsed⟩ none) :
    flag = false ∧ look = .pending ∧ elapsed < w.timeout.toNanos := by
  cases h with
  | undecided _ early => exact ⟨rfl, rfl, early⟩

namespace Client

/-- A wait that begins a turn with some flag, after some time, fails for a cause after some
exchanges. -/
inductive Fails (c : Client) (w : Wait) :
    (flag : Bool) → (elapsed : Nat) → List Exchange → Cause → Prop where
  | interrupt (elapsed : Nat) : Fails c w true elapsed [] .interrupt
  | unreached {fault : HttpFault} (reach : c.reach = .error fault) (elapsed : Nat) :
      Fails c w false elapsed [] (.unanswered (.http fault))
  | verdict {url : String} {x : Exchange} {fault : TransactionFault} (reach : c.reach = .ok url)
      (look : c.look url w.signature x = .failed fault) (elapsed : Nat) :
      Fails c w false elapsed [x] (.verdict fault)
  | unanswered {url : String} {x : Exchange} {fault : LedgerFault} (reach : c.reach = .ok url)
      (look : c.look url w.signature x = .unanswered (.failed fault)) (elapsed : Nat) :
      Fails c w false elapsed [x] (.unanswered fault)
  | timeout {url : String} {x : Exchange} {elapsed : Nat} (reach : c.reach = .ok url)
      (look : c.look url w.signature x = .pending)
      (late : w.timeout.toNanos ≤ elapsed + x.delay) :
      Fails c w false elapsed [x] .timeout
  /-- The wait goes on with the next turn, once the pause between the polls is over. -/
  | pending {url : String} {x : Exchange} {elapsed : Nat} {rest : List Exchange} {cause : Cause}
      (reach : c.reach = .ok url) (look : c.look url w.signature x = .pending)
      (early : elapsed + x.delay < w.timeout.toNanos)
      (later : Fails c w x.raised (elapsed + x.delay + c.confirmation.interval.toNanos) rest
        cause) :
      Fails c w false elapsed (x :: rest) cause

variable {c : Client} {w : Wait} {url : String} {flag : Bool} {elapsed : Nat} {xs : List Exchange}
  {cause : Cause}

/-- Only a wait that has seen the flag up fails for an interrupt. -/
theorem Fails.raised (h : c.Fails w flag elapsed xs cause) (hcause : cause = .interrupt) :
    (flag || xs.any (·.raised)) = true := by
  induction h with
  | interrupt elapsed => rfl
  | pending _ _ _ _ ih =>
    rw [List.any_cons, Bool.false_or]
    exact ih hcause
  | _ => cases hcause

namespace Fails

/-- A turn that fails a wait does so before its exchange, because of the flag, or with it. -/
theorem of_decides (hreach : c.reach = .ok url) {polls : Nat} {x : Exchange} {e : Ending}
    {fault : LedgerFault}
    (h : w.Decides polls ⟨flag, c.look url w.signature x, elapsed + x.delay⟩ (some e))
    (hfault : e.outcome = .error (.failed fault)) :
    ∃ cause, fault = cause.fault w e.polls ∧
      (e.polls = polls ∧ c.Fails w flag elapsed [] cause ∨
        e.polls = polls + 1 ∧ c.Fails w flag elapsed [x] cause) := by
  -- The cases are on the turn's look and time, which have to be variables for it.
  generalize hlook : c.look url w.signature x = look at h
  generalize htime : elapsed + x.delay = time at h
  cases h with
  | interrupted =>
    cases hfault
    exact ⟨.interrupt, rfl, .inl ⟨rfl, .interrupt elapsed⟩⟩
  | overflowed => cases hfault
  | landed => cases hfault
  | failed verdict =>
    cases hfault
    exact ⟨.verdict verdict, rfl, .inr ⟨rfl, .verdict hreach hlook elapsed⟩⟩
  | unanswered abort =>
    cases hfault
    exact ⟨.unanswered fault, rfl, .inr ⟨rfl, .unanswered hreach hlook elapsed⟩⟩
  | expired time late =>
    cases hfault
    exact ⟨.timeout, rfl, .inr ⟨rfl, .timeout hreach hlook (htime ▸ late)⟩⟩

/-- The end of a wait on which no exchange is left to the node. -/
theorem of_lastEnding (hreach : c.reach = .ok url) (elapsed : Nat) {polls : Nat}
    {fault : LedgerFault}
    (hfault : (lastEnding w url polls flag).outcome = .error (.failed fault)) :
    ∃ n cause, (lastEnding w url polls flag).polls = polls + n ∧
      c.Fails w flag elapsed (List.replicate n .spent) cause ∧
      fault = cause.fault w (polls + n) := by
  unfold lastEnding at hfault ⊢
  cases flag with
  | true =>
    cases hfault
    exact ⟨0, .interrupt, rfl, .interrupt elapsed, rfl⟩
  | false =>
    rw [if_neg Bool.false_ne_true] at hfault ⊢
    cases hspent : Exchange.spent.result url (.getSignatureStatuses w.signature) with
    | ok result =>
      rw [hspent] at hfault
      cases hfault
    | error abort =>
      rw [hspent] at hfault
      cases hfault
      -- One more poll takes place, and the node has nothing to say in it.
      have hlook : c.look url w.signature .spent = .unanswered (.failed fault) := by
        rw [look, hspent]
      exact ⟨1, .unanswered fault, rfl, .unanswered hreach hlook elapsed, rfl⟩

/-- A wait that fails does so for a cause, after as many exchanges as it counts polls. -/
theorem of_ending (hreach : c.reach = .ok url) {polls : Nat} {e : Ending} {fault : LedgerFault}
    (h : (w.ending polls (c.turns url w.signature flag elapsed xs)).getD
      (lastEnding w url (polls + xs.length) (flag || xs.any (·.raised))) = e)
    (hfault : e.outcome = .error (.failed fault)) :
    ∃ n cause, e.polls = polls + n ∧
      c.Fails w flag elapsed (xs.take n ++ List.replicate (n - xs.length) .spent) cause ∧
      fault = cause.fault w e.polls := by
  -- Each turn decides, or leaves the wait to the turns after it.
  induction xs generalizing polls flag elapsed with
  | nil =>
    change lastEnding w url polls (flag || false) = e at h
    rw [Bool.or_false] at h
    subst h
    obtain ⟨n, cause, hpolls, hfails, hcause⟩ := of_lastEnding hreach elapsed hfault
    exact ⟨n, cause, hpolls, by simpa using hfails, hcause.trans (by rw [hpolls])⟩
  | cons x xs ih =>
    unfold turns Wait.ending at h
    have hdecides := w.decides polls ⟨flag, c.look url w.signature x, elapsed + x.delay⟩
    cases hdecide : w.decide polls ⟨flag, c.look url w.signature x, elapsed + x.delay⟩ with
    | some e' =>
      rw [hdecide] at hdecides
      simp only [hdecide, Option.getD_some] at h
      subst h
      obtain ⟨cause, hcause, ⟨hpolls, hfails⟩ | ⟨hpolls, hfails⟩⟩ :=
        of_decides hreach hdecides hfault
      · exact ⟨0, cause, hpolls, by simpa using hfails, hcause⟩
      · exact ⟨1, cause, hpolls, by simpa using hfails, hcause⟩
    | none =>
      rw [hdecide] at hdecides
      obtain ⟨rfl, hlook, hearly⟩ := hdecides.of_none
      simp only [hdecide, List.length_cons, List.any_cons, Bool.false_or] at h
      -- The rest of the wait begins one poll later.
      rw [Nat.add_comm xs.length, ← Nat.add_assoc] at h
      obtain ⟨n, cause, hpolls, hfails, hcause⟩ := ih h
      refine ⟨n + 1, cause, by omega, ?_, hcause⟩
      rw [List.take_succ_cons, List.length_cons, Nat.add_sub_add_right, List.cons_append]
      exact .pending hreach hlook hearly hfails

end Fails

/-- A wait that fails over a session does so for a cause, and the exchanges that it takes from the
session are those that the cause comes after. -/
theorem exists_cause_of_ending {session : Session} {fault : LedgerFault}
    (h : (c.ending w session).outcome = .error (.failed fault)) :
    let polls := (c.ending w session).polls
    ∃ cause, c.Fails w session.flag 0 (session.upcoming polls) cause ∧
      fault = cause.fault w polls := by
  cases hreach : c.reach with
  | error refusal =>
    cases hflag : session.flag with
    | true =>
      have hending : c.ending w session = w.interrupted 0 := by simp [ending, hreach, hflag]
      rw [hending] at h ⊢
      cases h
      exact ⟨.interrupt, session.upcoming_zero ▸ .interrupt 0, rfl⟩
    | false =>
      have hending : c.ending w session = ⟨0, .error (.failed (.http refusal))⟩ := by
        simp [ending, hreach, hflag]
      rw [hending] at h ⊢
      cases h
      exact ⟨.unanswered (.http refusal), session.upcoming_zero ▸ .unreached hreach 0, rfl⟩
  | ok url =>
    have hending : c.ending w session =
        (w.ending 0 (c.turns url w.signature session.flag 0 session.exchanges)).getD
          (lastEnding w url (0 + session.exchanges.length)
            (session.flag || session.exchanges.any (·.raised))) := by
      simp only [ending, hreach, Nat.zero_add]
    obtain ⟨n, cause, hpolls, hfails, hcause⟩ := Fails.of_ending hreach hending.symm h
    rw [Nat.zero_add] at hpolls
    refine ⟨cause, ?_, hcause⟩
    rw [hpolls]
    exact hfails

end Client

end ClusterProbe.Rpc
