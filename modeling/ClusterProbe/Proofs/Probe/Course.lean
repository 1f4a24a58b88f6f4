import ClusterProbe.Probe.Course
import ClusterProbe.Proofs.Dialogue

/-!
# The ways on in a probe, played

What happens when a probe comes to a step or to a call.
-/

namespace ClusterProbe.Probe

variable {σ : Type} {ledger : Ledger σ} {state state' : σ} {flag raised : Bool}

theorem play_enter_up (step : Step) (next : Dialogue Result) :
    (enter step true next).play ledger state flag =
      ⟨[], .error (.failed (.interrupted step)), flag, state⟩ := rfl

theorem play_enter_down {step : Step} (next : Dialogue Result)
    (h : ledger.arrives state step = false) :
    (enter step false next).play ledger state flag =
      (next.play ledger state flag).after (.begun step) :=
  Dialogue.play_begin ledger _ next flag h

/-- An interrupt that has just arrived is seen by the step. -/
theorem play_enter_of_arrives {step : Step} (next : Dialogue Result)
    (h : ledger.arrives state step = true) :
    (enter step false next).play ledger state flag =
      ⟨[], .error (.failed (.interrupted step)), true, state⟩ :=
  Dialogue.play_begin_of_arrives ledger _ next flag h

variable {call : Call} {blame : LedgerFault → (flag : Bool) → ProbeFault}
  {next : call.Answer → (flag : Bool) → Dialogue Result}

/-- After an answer the probe goes on with it. -/
theorem play_ask_ok {answer : call.Answer}
    (h : ledger.answer state flag call = (.ok answer, raised, state')) :
    (ask call blame next).play ledger state flag =
      ((next answer (flag || raised)).play ledger state' (flag || raised)).after
        (.called ⟨call, .ok answer⟩) :=
  Dialogue.play_ask ledger _ h

/-- A call that fails ends the probe. -/
theorem play_ask_error {abort : Abort LedgerFault}
    (h : ledger.answer state flag call = (.error abort, raised, state')) :
    (ask call blame next).play ledger state flag =
      ⟨[.called ⟨call, .error abort⟩], .error (abort.map (blame · (flag || raised))),
        flag || raised, state'⟩ :=
  Dialogue.play_ask ledger _ h

end ClusterProbe.Probe
