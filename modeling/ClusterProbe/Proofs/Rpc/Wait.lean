import ClusterProbe.Proofs.Rpc.Log

/-!
# Waits that succeed

A wait succeeds only after a look at its signature that shows it as landed.
-/

namespace ClusterProbe.Rpc

/-- The node showed that the transaction with this signature text has got as far as a level, and has
not failed. -/
def Exchanged.Lands (e : Exchanged) (level : Commitment) (text : String) : Prop :=
  ∃ signature result status rest,
    e.request = .getSignatureStatuses signature ∧ signature.toBase58 = text ∧
    e.answer? = some result ∧
    inContext (Json.Shape.list (Json.Shape.nullable Rpc.status)) none result =
      .ok (some status :: rest) ∧
    status.satisfies level = true ∧ status.fault = none

/-- What a turn does to a wait after some polls.  The flag counts before the number of the polls, that
before the look, and the clock counts only where the look shows nothing. -/
inductive Wait.Decides (w : Wait) (polls : Nat) : Turn → Option Ending → Prop where
  | interrupted (look : Look) (elapsed : Nat) :
      Decides w polls ⟨true, look, elapsed⟩ (some (w.interrupted polls))
  | overflowed (look : Look) (elapsed : Nat) (limit : polls + 1 = pollLimit) :
      Decides w polls ⟨false, look, elapsed⟩
        (some ⟨polls, .error (.crashed "attempt to add with overflow")⟩)
  | landed (elapsed : Nat) : Decides w polls ⟨false, .landed, elapsed⟩ (some ⟨polls + 1, .ok ()⟩)
  | failed (fault : TransactionFault) (elapsed : Nat) :
      Decides w polls ⟨false, .failed fault, elapsed⟩
        (some ⟨polls + 1, .error (.failed (.transaction fault))⟩)
  | unanswered (abort : Abort LedgerFault) (elapsed : Nat) :
      Decides w polls ⟨false, .unanswered abort, elapsed⟩ (some ⟨polls + 1, .error abort⟩)
  | expired (elapsed : Nat) (late : w.timeout.toNanos ≤ elapsed) :
      Decides w polls ⟨false, .pending, elapsed⟩ (some (w.expired (polls + 1)))
  | undecided (elapsed : Nat) (early : elapsed < w.timeout.toNanos) :
      Decides w polls ⟨false, .pending, elapsed⟩ none

theorem Wait.decides (w : Wait) (polls : Nat) (turn : Turn) :
    w.Decides polls turn (w.decide polls turn) := by
  obtain ⟨flag, look, elapsed⟩ := turn
  unfold decide
  dsimp only
  cases flag with
  | true => exact .interrupted look elapsed
  | false =>
    rw [if_neg Bool.false_ne_true]
    split
    · next hlimit => exact .overflowed look elapsed hlimit
    · cases look with
      | landed => exact .landed elapsed
      | failed fault => exact .failed fault elapsed
      | unanswered abort => exact .unanswered abort elapsed
      | pending =>
        dsimp only
        split
        · next hlate => exact .expired elapsed hlate
        · next hearly => exact .undecided elapsed (Nat.not_le.1 hearly)

/-- One of the turns landed, and the wait ended with it. -/
theorem Wait.exists_landed_of_ending {w : Wait} {turns : List Turn} {polls : Nat} {e : Ending}
    (h : w.ending polls turns = some e) (hok : e.outcome = .ok ()) :
    ∃ i turn, turns[i]? = some turn ∧ turn.look = .landed ∧ e.polls = polls + i + 1 := by
  -- The first turn that decides ends the wait; the polls count the turns before it.
  induction turns generalizing polls with
  | nil => cases h
  | cons turn rest ih =>
    unfold ending at h
    cases hdecide : w.decide polls turn with
    | none =>
      rw [hdecide] at h
      obtain ⟨i, turn', hturn, hlook, hpolls⟩ := ih h
      exact ⟨i + 1, turn', hturn, hlook, by omega⟩
    | some e' =>
      rw [hdecide] at h
      cases h
      have hdecides := w.decides polls turn
      rw [hdecide] at hdecides
      -- Every other way to end a wait is an error.
      cases hdecides with
      | landed elapsed => exact ⟨0, _, rfl, rfl, rfl⟩
      | _ => cases hok

/-- A node that has nothing more to say gives no results. -/
theorem Exchange.toOption_result_spent (url : String) (request : Request) :
    (spent.result url request).toOption = none := by
  have h : (spent.result "" .getVersion).toOption.isNone = true := by decide +kernel
  rw [toOption_result spent url ""]
  exact Option.isNone_iff_eq_none.1 h

namespace Client

variable (c : Client) {url : String} {signature : Signature}

/-- Each turn of a wait is a look at one exchange. -/
theorem exists_look_of_turns {flag : Bool} {elapsed i : Nat} {xs : List Exchange} {turn : Turn}
    (h : (c.turns url signature flag elapsed xs)[i]? = some turn) :
    ∃ x, xs[i]? = some x ∧ turn.look = c.look url signature x := by
  induction xs generalizing flag elapsed i with
  | nil => simp [turns] at h
  | cons x rest ih =>
    cases i with
    | zero =>
      obtain rfl := Option.some.inj h
      exact ⟨x, rfl, rfl⟩
    | succ i => exact ih h

/-- A look that shows a signature as landed is an answer that says so. -/
theorem lands_of_look {x : Exchange} (h : c.look url signature x = .landed) :
    Exchanged.Lands ⟨.getSignatureStatuses signature, x⟩ c.confirmation.level
      signature.toBase58 := by
  unfold look at h
  split at h
  · cases h
  · next result hresult =>
    split at h
    · cases h
    · next statuses hstatuses =>
      unfold lookAt at h
      split at h
      · cases h
      · cases h
      · next status rest =>
        split at h
        · next hlevel =>
          split at h
          · next hfault =>
            refine ⟨signature, result, status, rest, rfl, rfl, ?_, hstatuses, hlevel, hfault⟩
            rw [Exchanged.answer?, Exchange.toOption_result x "" url, hresult]
            rfl
          · cases h
        · cases h

/-- The exchanges that a wait that succeeds has looked at show its signature as landed. -/
theorem exists_lands_of_ending {session : Session} {timeout : Duration}
    (h : (c.ending ⟨signature, timeout⟩ session).outcome = .ok ()) :
    ∃ x ∈ session.upcoming (c.ending ⟨signature, timeout⟩ session).polls,
      Exchanged.Lands ⟨.getSignatureStatuses signature, x⟩ c.confirmation.level
        signature.toBase58 := by
  cases hreach : c.reach with
  | error fault =>
    simp only [ending, hreach, Wait.interrupted] at h
    split at h <;> cases h
  | ok url =>
    simp only [ending, hreach] at h ⊢
    cases hending : Wait.ending ⟨signature, timeout⟩ 0
        (c.turns url signature session.flag 0 session.exchanges) with
    | none =>
      -- The node has nothing more to say, which is no success.
      simp only [hending, Option.getD_none, lastEnding] at h
      split at h
      · cases h
      · have hspent := Exchange.toOption_result_spent url (.getSignatureStatuses signature)
        cases hresult : Exchange.spent.result url (.getSignatureStatuses signature) with
        | ok result => rw [hresult] at hspent; cases hspent
        | error abort => rw [hresult] at h; cases h
    | some e =>
      simp only [hending, Option.getD_some] at h ⊢
      obtain ⟨i, turn, hturn, hlook, hpolls⟩ := Wait.exists_landed_of_ending hending h
      obtain ⟨x, hx, hlook'⟩ := c.exists_look_of_turns hturn
      refine ⟨x, ?_, c.lands_of_look (hlook'.symm.trans hlook)⟩
      have htake : (session.exchanges.take e.polls)[i]? = some x := by
        rw [List.getElem?_take_of_lt (by omega), hx]
      exact List.mem_append_left _ (List.mem_of_getElem? htake)

/-- A confirmation has the outcome of its wait, after the exchanges that the wait has looked at. -/
theorem run_confirm (signature : Signature) (session : Session) :
    let e := c.ending ⟨signature, c.confirmation.timeout⟩ session
    (c.confirm signature).run.run session =
      (e.outcome, session.after (.getSignatureStatuses signature) (session.upcoming e.polls)) :=
  run_conclude (c.ending ⟨signature, c.confirmation.timeout⟩ session).outcome

/-- A confirmation looks at its signature alone, and succeeds only where it shows as landed. -/
theorem adds_confirm (signature : Signature) :
    Adds (fun added outcome => (∀ e ∈ added, e.request = .getSignatureStatuses signature) ∧
        (outcome = .ok () → ∃ e ∈ added,
          e.Lands c.confirmation.level signature.toBase58))
      (c.confirm signature) := by
  intro session
  let e := c.ending ⟨signature, c.confirmation.timeout⟩ session
  let xs := session.upcoming e.polls
  rw [c.run_confirm]
  refine ⟨xs.map (⟨.getSignatureStatuses signature, ·⟩), rfl, ?_, fun hok => ?_⟩
  · intro exchanged hmem
    obtain ⟨x, -, rfl⟩ := List.mem_map.1 hmem
    rfl
  · obtain ⟨x, hx, hlands⟩ := c.exists_lands_of_ending hok
    exact ⟨_, List.mem_map_of_mem hx, hlands⟩

end Client

end ClusterProbe.Rpc
