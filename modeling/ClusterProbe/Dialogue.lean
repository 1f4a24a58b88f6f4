import ClusterProbe.Ledger.Basic

/-!
# Dialogues with a ledger

A dialogue is everything that a caller may say to a ledger: it is over with a result, or a step of
it begins unless an interrupt has just arrived, or it makes a call and goes on in a way that depends
on the outcome and on the interrupt flag after it.  Playing a dialogue against a ledger leaves a
trail of the steps that began and the calls that were made, with their outcomes, and gives the
result.
-/

namespace ClusterProbe

/-- A course of calls, decided step by step. -/
inductive Dialogue (α : Type) where
  | done (result : α)
  /-- A step, and what is said instead of it if an interrupt arrives before it. -/
  | begin (step : Step) (stop next : Dialogue α)
  /-- A call, and what follows its outcome and the flag after it. -/
  | ask (call : Call) (next : call.Outcome → (flag : Bool) → Dialogue α)

/-- A call that was made, with its outcome. -/
abbrev Event := (call : Call) × call.Outcome

inductive Mark where
  | begun (step : Step)
  | called (event : Event)

namespace Mark

def step? : Mark → Option Step
  | begun step => some step
  | called _ => none

def event? : Mark → Option Event
  | begun _ => none
  | called event => some event

end Mark

/-- What has happened when a dialogue is over. -/
structure Played (σ α : Type) where
  /-- The steps that began and the calls that were made, in order. -/
  trail : List Mark
  result : α
  flag : Bool
  state : σ

namespace Played

variable {σ α : Type}

/-- The calls that were made with their outcomes, in order. -/
def history (p : Played σ α) : List Event := p.trail.filterMap Mark.event?

def calls (p : Played σ α) : List Call := p.history.map (·.1)

def after (p : Played σ α) (mark : Mark) : Played σ α := { p with trail := mark :: p.trail }

end Played

def Dialogue.play {σ α : Type} (ledger : Ledger σ) : Dialogue α → σ → (flag : Bool) → Played σ α
  | .done result, state, flag => ⟨[], result, flag, state⟩
  | .begin step stop next, state, flag =>
    if ledger.arrives state step then stop.play ledger state true
    else (next.play ledger state flag).after (.begun step)
  | .ask call next, state, flag =>
    let (outcome, raised, state) := ledger.answer state flag call
    ((next outcome (flag || raised)).play ledger state (flag || raised)).after
      (.called ⟨call, outcome⟩)

end ClusterProbe
