import ClusterProbe.Proofs.Probe.Course

/-!
# Itineraries

An itinerary is what a probe has before it: calls with the answers that lead on, and the result at
the end of them.  A run along an itinerary makes its calls in order, and ends with the first of them
that fails, or where an interrupt stops it, or with the result at the end.
-/

namespace ClusterProbe

/-- A call with the answer that leads on, and with what its failure is put down to. -/
structure Leg where
  call : Call
  answer : call.Answer
  blame : LedgerFault → (flag : Bool) → ProbeFault

def Leg.event (leg : Leg) : Event := ⟨leg.call, .ok leg.answer⟩

/-- Calls in their order, and the result at the end of them. -/
structure Itinerary where
  legs : List Leg
  result : Probe.Result

/-- What has happened on a run along some legs, what its result is, and the flag at the end. -/
inductive Along (final : Probe.Result) :
    List Leg → List Event → Probe.Result → (flag : Bool) → Prop where
  | arrived (flag : Bool) : Along final [] [] final flag
  /-- The flag is up, and no further step begins. -/
  | stopped (legs : List Leg) (step : Step) :
      Along final legs [] (.error (.failed (.interrupted step))) true
  | failed (leg : Leg) (legs : List Leg) (abort : Abort LedgerFault) (flag : Bool) :
      Along final (leg :: legs) [⟨leg.call, .error abort⟩]
        (.error (abort.map (leg.blame · flag))) flag
  | answered (leg : Leg) {legs : List Leg} {history : List Event} {result : Probe.Result}
      {flag : Bool} (rest : Along final legs history result flag) :
      Along final (leg :: legs) (leg.event :: history) result flag

namespace Along

variable {final result : Probe.Result} {legs : List Leg} {history : List Event} {flag : Bool}

/-- The calls that were made are the first ones on the way. -/
theorem calls_prefix (h : Along final legs history result flag) :
    history.map (·.1) <+: legs.map (·.call) := by
  induction h with
  | arrived flag => exact List.prefix_rfl
  | stopped legs step => exact List.nil_prefix
  | failed leg legs abort flag =>
    exact List.cons_prefix_cons.2 ⟨rfl, List.nil_prefix⟩
  | answered leg _ ih => exact List.cons_prefix_cons.2 ⟨rfl, ih⟩

/-- Each call but the last one had its answer. -/
theorem dropLast_prefix (h : Along final legs history result flag) :
    history.dropLast <+: legs.map Leg.event := by
  induction h with
  | arrived flag => exact List.prefix_rfl
  | stopped legs step => exact List.nil_prefix
  | failed leg legs abort flag => exact List.nil_prefix
  | @answered leg legs history result flag _ ih =>
    cases history with
    | nil => exact List.nil_prefix
    | cons event rest => exact List.cons_prefix_cons.2 ⟨rfl, ih⟩

/-- A run that succeeds makes all its calls, and its result is the one at the end of them. -/
theorem of_ok {receipt : Receipt} (h : Along final legs history (.ok receipt) flag) :
    history = legs.map Leg.event ∧ .ok receipt = final := by
  generalize hresult : Except.ok receipt = result at h
  induction h with
  | arrived flag => exact ⟨rfl, rfl⟩
  | stopped legs step => cases hresult
  | failed leg legs abort flag => cases hresult
  | answered leg _ ih =>
    obtain ⟨rfl, hfinal⟩ := ih hresult
    exact ⟨rfl, hfinal⟩

/-- Without a call there is nothing but the result. -/
theorem of_nil (h : Along final [] history result false) : history = [] ∧ result = final := by
  cases h with
  | arrived flag => exact ⟨rfl, rfl⟩

/-- Without an interrupt the next call is made: it fails and ends the run, or leads on. -/
theorem of_cons {leg : Leg} (h : Along final (leg :: legs) history result false) :
    (∃ abort, history = [⟨leg.call, .error abort⟩] ∧
      result = .error (abort.map (leg.blame · false))) ∨
    ∃ rest, history = leg.event :: rest ∧ Along final legs rest result false := by
  cases h with
  | failed leg legs abort flag => exact .inl ⟨abort, rfl, rfl⟩
  | answered leg rest => exact .inr ⟨_, rfl, rest⟩

end Along

instance (call : Call) : Inhabited call.Answer where
  default := match call with
    | .handshake => ""
    | .fee => 0
    | .airdrop .. => .replicate 64 0
    | .confirm _ => ()
    | .blockhash => .replicate 32 0
    | .send _ => .replicate 64 0

/-- Against every ledger, from every state of it and every flag on, the dialogue that begins with
that flag is a run along one of some itineraries. -/
def Goes (plans : Itinerary → Prop) (d : (flag : Bool) → Dialogue Probe.Result) : Prop :=
  ∀ (σ : Type) (ledger : Ledger σ) (state : σ) (flag : Bool),
    let p := (d flag).play ledger state flag
    ∃ it, plans it ∧ Along it.result it.legs p.history p.result p.flag

namespace Goes

open Probe

variable {plans : Itinerary → Prop}

theorem mono {wider : Itinerary → Prop} {d : (flag : Bool) → Dialogue Result} (h : Goes plans d)
    (hle : ∀ it, plans it → wider it) : Goes wider d := by
  intro σ ledger state flag
  obtain ⟨it, hit, along⟩ := h σ ledger state flag
  exact ⟨it, hle it hit, along⟩

theorem done (result : Result) : Goes (· = ⟨[], result⟩) fun _ => .done result :=
  fun _ _ _ flag => ⟨_, rfl, .arrived flag⟩

theorem enter (step : Step) {next : (flag : Bool) → Dialogue Result} (h : Goes plans next) :
    Goes plans fun flag => Probe.enter step flag (next flag) := by
  intro σ ledger state flag
  obtain ⟨it, hit, along⟩ := h σ ledger state flag
  refine ⟨it, hit, ?_⟩
  -- Where the step is not begun, the itinerary is the one that would have followed.
  cases flag with
  | true =>
    rw [play_enter_up]
    exact .stopped it.legs step
  | false =>
    cases harrives : ledger.arrives state step with
    | true =>
      rw [play_enter_of_arrives (next false) harrives]
      exact .stopped it.legs step
    | false =>
      rw [play_enter_down (next false) harrives]
      exact along

/-- A call is a leg, and its answer decides what follows. -/
theorem ask (call : Call) (blame : LedgerFault → (flag : Bool) → ProbeFault)
    (rest : call.Answer → Itinerary → Prop)
    {next : call.Answer → (flag : Bool) → Dialogue Result}
    (h : ∀ answer, Goes (rest answer) (next answer)) :
    Goes (fun it => ∃ answer tail, rest answer tail ∧
        it = ⟨⟨call, answer, blame⟩ :: tail.legs, tail.result⟩)
      fun _ => Probe.ask call blame next := by
  intro σ ledger state flag
  rcases ha : ledger.answer state flag call with ⟨abort | answer, raised, state'⟩
  · -- What an answer would have led to is out of reach, so any will do.
    rw [play_ask_error ha]
    obtain ⟨tail, htail, -⟩ := h default σ ledger state' flag
    exact ⟨_, ⟨default, tail, htail, rfl⟩, .failed ⟨call, default, blame⟩ _ abort _⟩
  · rw [play_ask_ok ha]
    obtain ⟨tail, htail, along⟩ := h answer σ ledger state' (flag || raised)
    exact ⟨_, ⟨answer, tail, htail, rfl⟩, .answered ⟨call, answer, blame⟩ along⟩

end Goes

end ClusterProbe
