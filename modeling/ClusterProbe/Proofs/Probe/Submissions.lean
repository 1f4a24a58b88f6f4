import ClusterProbe.Proofs.Probe.Waits

/-!
# Submissions of a probe

A probe submits an airdrop and a transaction once at most, and tells a submission as rejected
exactly if the call of it failed, and as unconfirmed under the signature that the call gave.
-/

namespace ClusterProbe

theorem eq_of_nodup_filterMap {α β : Type} {f : α → Option β} {l : List α}
    (h : (l.filterMap f).Nodup) {a a' : α} (ha : a ∈ l) (ha' : a' ∈ l) {b : β} (hb : f a = some b)
    (hb' : f a' = some b) : a = a' := by
  induction l with
  | nil => cases ha
  | cons x l ih =>
    -- What the first item gives, none of the others does.
    have hnew {y : α} (hy : y ∈ l) (hx : f x = some b) (hfy : f y = some b) : False := by
      rw [List.filterMap_cons_some hx] at h
      exact (List.nodup_cons.1 h).1 (List.mem_filterMap.2 ⟨y, hy, hfy⟩)
    have htail : (l.filterMap f).Nodup := h.sublist ((List.sublist_cons_self x l).filterMap f)
    rcases List.mem_cons.1 ha with hax | ha <;> rcases List.mem_cons.1 ha' with hax' | ha'
    · exact hax.trans hax'.symm
    · exact (hnew ha' (hax ▸ hb) hb').elim
    · exact (hnew ha (hax' ▸ hb') hb).elim
    · exact ih htail ha ha'

/-- What a call asks the node to carry out. -/
def Call.submission? : Call → Option Submission
  | .airdrop _ lamports => some (.airdrop lamports)
  | .send _ => some .transaction
  | _ => none

/-- The signature that a submission was taken under. -/
def Event.taken? : Event → Option Signature
  | ⟨.airdrop .., .ok signature⟩ => some signature
  | ⟨.send _, .ok signature⟩ => some signature
  | _ => none

namespace Event

theorem taken?_airdrop {account : PublicKey} {lamports : UInt64}
    {outcome : Call.Outcome (.airdrop account lamports)} {signature : Signature} :
    taken? ⟨.airdrop account lamports, outcome⟩ = some signature ↔ outcome = .ok signature := by
  cases outcome <;> simp [taken?]

theorem taken?_send {transaction : Transaction} {outcome : Call.Outcome (.send transaction)}
    {signature : Signature} :
    taken? ⟨.send transaction, outcome⟩ = some signature ↔ outcome = .ok signature := by
  cases outcome <;> simp [taken?]

end Event

/-- The legs of a probe. -/
inductive Leg.Kind (config : Config) : Leg → Prop where
  | query (call : Call) (answer : call.Answer) (h : call.submission? = none) :
      Kind config (.query config call answer)
  | hand (submission : Submission) (call : Call) (answer : call.Answer)
      (h : call.submission? = some submission) : Kind config (.hand submission call answer)
  | wait (step : Step) (submission : Submission) (signature : Signature) :
      Kind config (.wait step submission signature)

theorem Plan.kind_queries (config : Config) (version : String) (fee : UInt64) :
    ∀ leg ∈ queries config version fee, leg.Kind config := by
  unfold queries
  simp only [List.forall_mem_cons]
  exact ⟨.query _ _ rfl, .query _ _ rfl, nofun⟩

theorem Plan.kind_legs (plan : Plan) (config : Config) :
    ∀ leg ∈ plan.legs config, leg.Kind config := by
  unfold legs funding submission
  simp only [List.forall_mem_append, List.forall_mem_cons]
  refine ⟨⟨kind_queries config _ _, ?_⟩, .query _ _ rfl, .hand _ _ _ rfl, .wait _ _ _, nofun⟩
  split
  · simp only [List.forall_mem_cons]
    exact ⟨.hand _ _ _ rfl, .wait _ _ _, nofun⟩
  · exact nofun

namespace Itinerary.Planned

variable {config : Config} {around : Surroundings} {it : Itinerary}

theorem kind (h : Planned config around it) : ∀ leg ∈ it.legs, leg.Kind config := by
  cases h with
  | badAddress fault _ => exact nofun
  | tooLarge program version fee _ _ => exact Plan.kind_queries config version fee
  | badKeypair program version fee path fault _ _ _ _ =>
    exact Plan.kind_queries config version fee
  | whole plan fits => exact plan.kind_legs config

/-- Nothing is submitted twice. -/
theorem nodup_submissions (h : Planned config around it) :
    ((it.legs.map (·.call)).filterMap Call.submission?).Nodup := by
  cases h with
  | whole plan fits =>
    unfold Plan.legs
    cases config.keypair with
    | none =>
      show [Submission.airdrop plan.lamports, .transaction].Nodup
      simp
    | some path => exact List.nodup_singleton _
  | _ => exact List.nodup_nil

end Itinerary.Planned

/-- A run that fails, and not only at the end of its legs, was interrupted before a step, or its
last call failed. -/
theorem Along.exists_leg_of_failed {final result : Probe.Result} {legs : List Leg}
    {history : List Event} {flag : Bool} (h : Along final legs history result flag)
    (hfinal : result ≠ final) {fault : ProbeFault} (hresult : result = .error (.failed fault)) :
    (∃ step, fault = .interrupted step) ∨
      ∃ leg ∈ legs, ∃ source, ⟨leg.call, .error (.failed source)⟩ ∈ history ∧
        fault = leg.blame source flag := by
  induction h with
  | arrived flag => exact absurd rfl hfinal
  | stopped legs step =>
    cases hresult
    exact .inl ⟨step, rfl⟩
  | failed leg legs abort flag =>
    cases abort with
    | crashed text => cases hresult
    | failed source =>
      cases hresult
      exact .inr ⟨leg, List.mem_cons_self, source, List.mem_singleton_self _, rfl⟩
  | answered leg rest ih =>
    rcases ih hfinal hresult with hstopped | ⟨leg', hleg, source, hmem, hfault⟩
    · exact .inl hstopped
    · exact .inr ⟨leg', List.mem_cons_of_mem _ hleg, source, List.mem_cons_of_mem _ hmem, hfault⟩

namespace Probe

variable {σ : Type} (config : Config) (around : Surroundings) (ledger : Ledger σ) (state : σ)
  (flag : Bool)

/-- Of each submission there is one call at most. -/
theorem eq_of_submission? {event event' : Event}
    (h : event ∈ (run config around ledger state flag).history)
    (h' : event' ∈ (run config around ledger state flag).history) {submission : Submission}
    (hsubmission : event.1.submission? = some submission)
    (hsubmission' : event'.1.submission? = some submission) : event = event' := by
  obtain ⟨it, hit, along⟩ := exists_along_run config around ledger state flag
  have hnodup := (along.calls_prefix.sublist.filterMap Call.submission?).nodup hit.nodup_submissions
  rw [List.filterMap_map] at hnodup
  exact eq_of_nodup_filterMap hnodup h h' hsubmission hsubmission'

/-- A submission is told as rejected exactly if the call of it failed. -/
theorem rejected_iff {submission : Submission} {source : LedgerFault} :
    let p := run config around ledger state flag
    p.result = .error (.failed (.rejected submission source)) ↔
      ∃ call : Call, call.submission? = some submission ∧
        ⟨call, .error (.failed source)⟩ ∈ p.history := by
  intro p
  obtain ⟨it, hit, along⟩ : ∃ it, Itinerary.Planned config around it ∧
      Along it.result it.legs p.history p.result p.flag :=
    exists_along_run config around ledger state flag
  constructor
  · intro h
    -- No itinerary ends with a rejection, so that one of its legs has failed.
    have hfinal : p.result ≠ it.result := by
      rw [h]
      cases hit <;> exact nofun
    rcases along.exists_leg_of_failed hfinal h with ⟨step, hstep⟩ | ⟨leg, hleg, source', hmem, hfault⟩
    · cases hstep
    · cases hit.kind leg hleg with
      | query call answer _ => cases hfault
      | hand submission' call answer hcall =>
        cases hfault
        exact ⟨call, hcall, hmem⟩
      | wait step submission' signature =>
        simp only [Leg.wait] at hfault
        split at hfault <;> cases hfault
  · rintro ⟨call, hcall, hmem⟩
    obtain ⟨before, leg, after, hlegs, rfl, -, hresult⟩ := along.exists_leg_of_error hmem
    have hleg : leg ∈ it.legs := by simp [hlegs]
    rw [hresult]
    cases hit.kind leg hleg with
    | query call answer hnone =>
      rw [Leg.call_query, hnone] at hcall
      cases hcall
    | hand submission' call answer hsome =>
      rw [Leg.call_hand, hsome] at hcall
      cases hcall
      rfl
    | wait step submission' signature => cases hcall

/-- A submission is told as unconfirmed under the signature that it was taken under. -/
theorem exists_taken_of_unconfirmed {submission : Submission} {signature : Signature}
    {source : LedgerFault}
    (h : (run config around ledger state flag).result =
      .error (.failed (.unconfirmed submission signature source))) :
    ∃ event ∈ (run config around ledger state flag).history,
      event.1.submission? = some submission ∧ Event.taken? event = some signature := by
  obtain ⟨it, hit, along⟩ := exists_along_run config around ledger state flag
  have hfinal : (run config around ledger state flag).result ≠ it.result := by
    rw [h]
    cases hit <;> exact nofun
  rcases along.exists_leg_of_failed hfinal h with ⟨step, hstep⟩ | ⟨leg, hleg, source', hmem, hfault⟩
  · cases hstep
  have hwaited : leg.call = .confirm signature := by
    cases hit.kind leg hleg with
    | query call answer _ => cases hfault
    | hand submission' call answer hcall => cases hfault
    | wait step submission' signature' =>
      simp only [Leg.wait] at hfault
      split at hfault
      · cases hfault
      · cases hfault
        rfl
  -- The wait that has failed is the one for the signature that the call before has given.
  obtain ⟨call, answer, blame⟩ := leg
  cases hwaited
  obtain ⟨step, submission', hwait, hresult⟩ :=
    result_of_failed_wait config around ledger state flag hmem
  have hsubmission : submission' = submission := by
    rw [h] at hresult
    split at hresult
    · cases hresult
    · cases hresult
      rfl
  rw [← hsubmission]
  cases hwait with
  | airdrop account lamports last =>
    exact ⟨⟨.airdrop account lamports, .ok signature⟩, last.subset List.mem_cons_self, rfl, rfl⟩
  | transaction transaction last =>
    exact ⟨⟨.send transaction, .ok signature⟩, last.subset List.mem_cons_self, rfl, rfl⟩

end Probe

end ClusterProbe
