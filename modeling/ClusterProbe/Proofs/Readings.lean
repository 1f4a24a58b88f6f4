import ClusterProbe.Proofs.Dialogue

/-!
# Readings of the interrupt flag

While a dialogue is played the flag tells at two kinds of moments: when a step is come to, and when a
call returns.  The readings of a dialogue are these moments in order, each with the flag at it.
-/

namespace ClusterProbe

/-- A moment at which the flag tells. -/
inductive Moment where
  /-- A step is come to, and begins if the flag is down. -/
  | reached (step : Step)
  | returned (event : Event)

structure Reading where
  moment : Moment
  flag : Bool

namespace Reading

/-- The call that has returned, with its outcome. -/
def event? : Reading → Option Event
  | ⟨.reached _, _⟩ => none
  | ⟨.returned event, _⟩ => some event

end Reading

namespace Dialogue

variable {σ α : Type} (ledger : Ledger σ)

def readings : Dialogue α → σ → (flag : Bool) → List Reading
  | .done _, _, _ => []
  | .begin step stop next, state, flag =>
    if ledger.arrives state step then ⟨.reached step, true⟩ :: stop.readings state true
    else ⟨.reached step, flag⟩ :: next.readings state flag
  | .ask call next, state, flag =>
    let (outcome, raised, state) := ledger.answer state flag call
    ⟨.returned ⟨call, outcome⟩, flag || raised⟩ ::
      (next outcome (flag || raised)).readings state (flag || raised)

theorem readings_begin {step : Step} (stop next : Dialogue α) {state : σ} (flag : Bool)
    (h : ledger.arrives state step = false) :
    (begin step stop next).readings ledger state flag =
      ⟨.reached step, flag⟩ :: next.readings ledger state flag := by
  rw [readings, h, if_neg Bool.false_ne_true]

theorem readings_begin_of_arrives {step : Step} (stop next : Dialogue α) {state : σ} (flag : Bool)
    (h : ledger.arrives state step = true) :
    (begin step stop next).readings ledger state flag =
      ⟨.reached step, true⟩ :: stop.readings ledger state true := by
  rw [readings, h, if_pos rfl]

theorem readings_ask {call : Call} (next : call.Outcome → Bool → Dialogue α) {state : σ}
    {flag : Bool} {outcome : call.Outcome} {raised : Bool} {state' : σ}
    (h : ledger.answer state flag call = (outcome, raised, state')) :
    (ask call next).readings ledger state flag =
      ⟨.returned ⟨call, outcome⟩, flag || raised⟩ ::
        (next outcome (flag || raised)).readings ledger state' (flag || raised) := by
  rw [readings, h]

/-- The calls that return are the calls that were made. -/
theorem filterMap_event?_readings (d : Dialogue α) (state : σ) (flag : Bool) :
    (d.readings ledger state flag).filterMap Reading.event? =
      (d.play ledger state flag).history := by
  induction d generalizing state flag with
  | done result => rfl
  | begin step stop next ihstop ih =>
    cases h : ledger.arrives state step with
    | true =>
      rw [readings_begin_of_arrives ledger stop next flag h,
        play_begin_of_arrives ledger stop next flag h]
      exact ihstop state true
    | false =>
      rw [readings_begin ledger stop next flag h, play_begin ledger stop next flag h]
      exact ih state flag
  | ask call next ih =>
    rcases h : ledger.answer state flag call with ⟨outcome, raised, state'⟩
    rw [readings_ask ledger next h, play_ask ledger next h]
    exact congrArg _ (ih outcome (flag || raised) state' (flag || raised))

end Dialogue

end ClusterProbe
