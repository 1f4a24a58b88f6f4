import ClusterProbe.Proofs.Probe.Plan
import ClusterProbe.Proofs.Probe.Shape

/-!
# Waits of a probe that fail

A probe waits for the signature that it has just been given.  A wait that fails ends the probe: with
the flag down the result names the signature and the fault, with the flag up it tells of an
interrupt.  No other step that has begun is told as interrupted.
-/

namespace ClusterProbe

/-- A call that failed was the last one, and the result is what its failure is put down to. -/
theorem Along.exists_leg_of_error {final result : Probe.Result} {legs : List Leg}
    {history : List Event} {flag : Bool} (h : Along final legs history result flag) {call : Call}
    {abort : Abort LedgerFault} (hmem : ⟨call, .error abort⟩ ∈ history) :
    ∃ before leg after, legs = before ++ leg :: after ∧ leg.call = call ∧
      history = before.map Leg.event ++ [⟨call, .error abort⟩] ∧
      result = .error (abort.map (leg.blame · flag)) := by
  induction h with
  | arrived flag => simp at hmem
  | stopped legs step => simp at hmem
  | failed leg legs abort' flag =>
    obtain ⟨call', answer, blame⟩ := leg
    cases List.mem_singleton.1 hmem
    exact ⟨[], ⟨call', answer, blame⟩, legs, rfl, rfl, rfl, rfl⟩
  | answered leg rest ih =>
    rcases List.mem_cons.1 hmem with heq | hmem
    · obtain ⟨call', answer, blame⟩ := leg
      cases heq
    · obtain ⟨before, leg', after, rfl, hcall, rfl, hresult⟩ := ih hmem
      exact ⟨leg :: before, leg', after, rfl, hcall, rfl, hresult⟩

/-- The last wait of some calls has failed: the step of it, and what was waited for under the
signature that the call before has given. -/
inductive FailedWait (history : List Event) (signature : Signature) (fault : LedgerFault) :
    Step → Submission → Prop where
  | airdrop (account : PublicKey) (lamports : UInt64)
      (last : [⟨.airdrop account lamports, .ok signature⟩,
        ⟨.confirm signature, .error (.failed fault)⟩] <:+ history) :
      FailedWait history signature fault .confirmAirdrop (.airdrop lamports)
  | transaction (transaction : Transaction)
      (last : [⟨.send transaction, .ok signature⟩,
        ⟨.confirm signature, .error (.failed fault)⟩] <:+ history) :
      FailedWait history signature fault .confirmTransaction .transaction

theorem FailedWait.getLast? {history : List Event} {signature : Signature} {fault : LedgerFault}
    {step : Step} {submission : Submission}
    (h : FailedWait history signature fault step submission) :
    history.getLast? = some ⟨.confirm signature, .error (.failed fault)⟩ := by
  cases h with
  | airdrop account lamports last =>
    obtain ⟨before, rfl⟩ := last
    simp
  | transaction transaction last =>
    obtain ⟨before, rfl⟩ := last
    simp

/-- A leg with another call than the first one is among the rest. -/
theorem Leg.skip {first leg : Leg} {legs before after : List Leg}
    (h : first :: legs = before ++ leg :: after) (hne : leg.call ≠ first.call) :
    ∃ before', before = first :: before' ∧ legs = before' ++ leg :: after := by
  rcases List.cons_eq_append_iff.1 h with ⟨rfl, hleg⟩ | hrest
  · cases hleg
    exact absurd rfl hne
  · exact hrest

namespace Plan

variable {plan : Plan} {config : Config} {before after : List Leg} {leg : Leg}
  {signature : Signature}

theorem wait_of_submission (h : plan.submission config = before ++ leg :: after)
    (hcall : leg.call = .confirm signature) :
    leg = .wait .confirmTransaction .transaction signature ∧
      ∃ earlier, before.map Leg.event = earlier ++ [⟨.send plan.transaction, .ok signature⟩] := by
  -- Neither the block hash nor the transaction is a wait.
  obtain ⟨rest, rfl, h'⟩ := Leg.skip h (by simp [hcall])
  obtain ⟨rest, rfl, h''⟩ := Leg.skip h' (by simp [hcall])
  cases rest with
  | nil =>
    cases h''
    cases hcall
    exact ⟨rfl, [⟨.blockhash, .ok plan.blockhash⟩], rfl⟩
  | cons head rest => simp at h''

/-- The waits of a plan come right after the calls that give their signatures. -/
theorem wait_of_legs (h : plan.legs config = before ++ leg :: after)
    (hcall : leg.call = .confirm signature) :
    (leg = .wait .confirmAirdrop (.airdrop plan.lamports) signature ∧
      ∃ earlier, before.map Leg.event =
        earlier ++ [⟨.airdrop plan.payer.publicKey plan.lamports, .ok signature⟩]) ∨
    (leg = .wait .confirmTransaction .transaction signature ∧
      ∃ earlier, before.map Leg.event = earlier ++ [⟨.send plan.transaction, .ok signature⟩]) := by
  unfold legs queries at h
  obtain ⟨rest, rfl, h'⟩ := Leg.skip h (by simp [hcall])
  obtain ⟨rest, rfl, h''⟩ := Leg.skip h' (by simp [hcall])
  cases hkeypair : config.keypair with
  | some path =>
    rw [hkeypair] at h''
    obtain ⟨hleg, earlier, hearlier⟩ := wait_of_submission h'' hcall
    exact .inr ⟨hleg, _ :: _ :: earlier, congrArg (_ :: _ :: ·) hearlier⟩
  | none =>
    rw [hkeypair] at h''
    obtain ⟨rest, rfl, hwait⟩ := Leg.skip h'' (by simp [hcall])
    cases rest with
    | nil =>
      cases hwait
      cases hcall
      exact .inl ⟨rfl, [⟨.handshake, .ok plan.version⟩, ⟨.fee, .ok plan.fee⟩], rfl⟩
    | cons head rest =>
      obtain ⟨rfl, hsubmission⟩ := List.cons.inj hwait
      obtain ⟨hleg, earlier, hearlier⟩ := wait_of_submission hsubmission hcall
      exact .inr ⟨hleg, _ :: _ :: _ :: _ :: earlier, congrArg (_ :: _ :: _ :: _ :: ·) hearlier⟩

end Plan

namespace Probe

variable {σ : Type} (config : Config) (around : Surroundings) (ledger : Ledger σ) (state : σ)
  (flag : Bool)

/-- A wait that fails decides the result: with the flag up its step is told as interrupted, with the
flag down the submission is told as unconfirmed, with its signature and with the fault. -/
theorem result_of_failed_wait {signature : Signature} {fault : LedgerFault}
    (h : ⟨.confirm signature, .error (.failed fault)⟩ ∈
      (run config around ledger state flag).history) :
    let p := run config around ledger state flag
    ∃ step submission, FailedWait p.history signature fault step submission ∧
      p.result = .error (.failed
        (if p.flag then .interrupted step else .unconfirmed submission signature fault)) := by
  intro p
  obtain ⟨it, hit, along⟩ := exists_along_run config around ledger state flag
  obtain ⟨before, leg, after, hlegs, hcall, hhistory, hresult⟩ := along.exists_leg_of_error h
  -- An itinerary that ends early has no legs but queries, and none of them is a wait.
  have hqueries (version : String) (fee : UInt64) :
      Plan.queries config version fee ≠ before ++ leg :: after := by
    intro hlegs
    have hmem : leg ∈ Plan.queries config version fee := by simp [hlegs]
    have hqueried : leg = .query config .handshake version ∨ leg = .query config .fee fee := by
      simpa [Plan.queries] using hmem
    rcases hqueried with rfl | rfl <;> cases hcall
  cases hit with
  | badAddress fault _ => simp at hlegs
  | tooLarge program version fee _ _ => exact absurd hlegs (hqueries version fee)
  | badKeypair program version fee path fault _ _ _ _ => exact absurd hlegs (hqueries version fee)
  | whole plan fits =>
    rcases Plan.wait_of_legs hlegs hcall with ⟨rfl, earlier, hearlier⟩ | ⟨rfl, earlier, hearlier⟩
    · refine ⟨_, _, .airdrop plan.payer.publicKey plan.lamports ⟨earlier, ?_⟩, hresult⟩
      rw [hhistory, hearlier, List.append_assoc]
      rfl
    · refine ⟨_, _, .transaction plan.transaction ⟨earlier, ?_⟩, hresult⟩
      rw [hhistory, hearlier, List.append_assoc]
      rfl

end Probe

/-! ## Steps that are told as interrupted -/

/-- From every state of every ledger and every flag on, a step that the dialogue tells as interrupted
is at the place `n` or later and has not begun, unless a wait has failed with the flag up. -/
def Candid (n : Nat) (d : (flag : Bool) → Dialogue Probe.Result) : Prop :=
  ∀ (σ : Type) (ledger : Ledger σ) (state : σ) (flag : Bool) (step : Step),
    let p := (d flag).play ledger state flag
    p.result = .error (.failed (.interrupted step)) →
      (n ≤ step.place ∧ .begun step ∉ p.trail) ∨
      (p.flag = true ∧ ∃ signature fault,
        ⟨.confirm signature, .error (.failed fault)⟩ ∈ p.history)

namespace Candid

open Probe

variable {n : Nat}

theorem done {result : Result} (h : ∀ step, result ≠ .error (.failed (.interrupted step))) :
    Candid n fun _ => .done result :=
  fun _ _ _ _ step hresult => absurd hresult (h step)

/-- A step does not begin where it is told as interrupted, and only later ones come after it. -/
theorem enter {step : Step} (hstep : n ≤ step.place) {next : (flag : Bool) → Dialogue Result}
    (h : Candid (step.place + 1) next) :
    Candid n fun flag => Probe.enter step flag (next flag) := by
  intro σ ledger state flag told p hresult
  cases flag with
  | true =>
    cases hresult
    exact .inl ⟨hstep, List.not_mem_nil⟩
  | false =>
    cases harrives : ledger.arrives state step with
    | true =>
      have hp : p = _ := play_enter_of_arrives (next false) harrives
      rw [hp] at hresult ⊢
      cases hresult
      exact .inl ⟨hstep, List.not_mem_nil⟩
    | false =>
      have hp : p = _ := play_enter_down (next false) harrives
      rw [hp] at hresult ⊢
      rcases h σ ledger state false told hresult with ⟨hplace, hnot⟩ | hlost
      · refine .inl ⟨by omega, fun hbegun => ?_⟩
        rcases List.mem_cons.1 hbegun with heq | hbegun
        · have hsame : told = step := Mark.begun.inj heq
          rw [hsame] at hplace
          omega
        · exact hnot hbegun
      · exact .inr hlost

/-- What a call that fails is put down to tells of no interrupt, or only of a wait's. -/
theorem ask {call : Call} {blame : LedgerFault → (flag : Bool) → ProbeFault}
    (hblame : ∀ fault flag step, blame fault flag = .interrupted step →
      flag = true ∧ ∃ signature, call = .confirm signature)
    {next : call.Answer → (flag : Bool) → Dialogue Result}
    (h : ∀ answer, Candid n (next answer)) :
    Candid n fun _ => Probe.ask call blame next := by
  intro σ ledger state flag told p hresult
  rcases ha : ledger.answer state flag call with ⟨abort | answer, raised, state'⟩
  · have hp : p = _ := play_ask_error ha
    rw [hp] at hresult ⊢
    cases abort with
    | crashed text => cases hresult
    | failed fault =>
      obtain ⟨hup, signature, rfl⟩ :=
        hblame fault _ told (Abort.failed.inj (Except.error.inj hresult))
      exact .inr ⟨hup, signature, fault, List.mem_singleton_self _⟩
  · have hp : p = _ := play_ask_ok ha
    rw [hp] at hresult ⊢
    rcases h answer σ ledger state' (flag || raised) told hresult with
      ⟨hplace, hnot⟩ | ⟨hup, signature, fault, hlost⟩
    · exact .inl ⟨hplace, by simpa using hnot⟩
    · exact .inr ⟨hup, signature, fault, List.mem_cons_of_mem _ hlost⟩

/-- A call that is no wait. -/
theorem call {call : Call} {blame : LedgerFault → ProbeFault}
    (told : ∀ fault step, blame fault ≠ .interrupted step)
    {next : call.Answer → (flag : Bool) → Dialogue Result}
    (h : ∀ answer, Candid n (next answer)) :
    Candid n fun _ => Probe.ask call (fun fault _ => blame fault) next :=
  ask (fun fault _ step hblame => absurd hblame (told fault step)) h

/-- Only with the flag up a wait's failure is put down to an interrupt. -/
theorem wait (step : Step) (submission : Submission) (signature : Signature)
    {next : (flag : Bool) → Dialogue Result} (h : Candid n next) :
    Candid n fun _ => Probe.ask (.confirm signature)
      (fun fault flag =>
        if flag then .interrupted step else .unconfirmed submission signature fault)
      fun _ flag => next flag := by
  refine ask (fun fault flag told htold => ?_) fun _ => h
  cases flag with
  | true => exact ⟨rfl, signature, rfl⟩
  | false => cases htold

theorem of_shaped {d : (flag : Bool) → Dialogue Result} (h : Shaped n d) : Candid n d := by
  induction h with
  | done told => exact done told
  | enter step place _ ih => exact enter place ih
  | call step place _ _ told _ ih => exact enter place (call told ih)
  | submit step place endpoint transaction _ ih =>
    exact enter place (call (by simp) fun blockhash => call (by simp) ih)
  | await step place submission signature _ ih => exact enter place (wait step _ signature ih)

end Candid

/-- A step that has begun is told as interrupted only where a wait has failed with the flag up. -/
theorem Probe.failed_wait_of_interrupted {σ : Type} {config : Config} {around : Surroundings}
    {ledger : Ledger σ} {state : σ} {flag : Bool} {step : Step}
    (h : (run config around ledger state flag).result = .error (.failed (.interrupted step)))
    (hbegun : .begun step ∈ (run config around ledger state flag).trail) :
    (run config around ledger state flag).flag = true ∧ ∃ signature fault,
      ⟨.confirm signature, .error (.failed fault)⟩ ∈
        (run config around ledger state flag).history := by
  have hcandid := Candid.of_shaped (Shaped.course config around)
  rcases hcandid σ ledger state flag step h with ⟨-, hnot⟩ | hlost
  · exact absurd hbegun hnot
  · exact hlost

end ClusterProbe
