import ClusterProbe.Dialogue
import Mathlib.Logic.Basic

/-!
# Playing dialogues

What one step of a dialogue adds to what has happened, that the interrupt flag never comes down, and
ledgers on which interrupts arrive at chosen moments.
-/

namespace ClusterProbe

namespace Played

variable {σ α : Type} (p : Played σ α)

@[simp] theorem trail_after (mark : Mark) : (p.after mark).trail = mark :: p.trail := rfl

@[simp] theorem result_after (mark : Mark) : (p.after mark).result = p.result := rfl

@[simp] theorem flag_after (mark : Mark) : (p.after mark).flag = p.flag := rfl

@[simp] theorem state_after (mark : Mark) : (p.after mark).state = p.state := rfl

@[simp] theorem history_after_begun (step : Step) :
    (p.after (.begun step)).history = p.history := rfl

@[simp] theorem history_after_called (event : Event) :
    (p.after (.called event)).history = event :: p.history := rfl

/-- A longer trail has the longer list of calls. -/
theorem calls_prefix_of_trail {τ : Type} {p : Played σ α} {q : Played τ α}
    (h : p.trail <+: q.trail) : p.calls <+: q.calls :=
  (h.filterMap Mark.event?).map Sigma.fst

end Played

namespace Dialogue

variable {σ α : Type} (ledger : Ledger σ)

@[simp] theorem play_done (result : α) (state : σ) (flag : Bool) :
    (done result).play ledger state flag = ⟨[], result, flag, state⟩ := rfl

/-- A step begins if no interrupt arrives before it. -/
theorem play_begin {step : Step} (stop next : Dialogue α) {state : σ} (flag : Bool)
    (h : ledger.arrives state step = false) :
    (begin step stop next).play ledger state flag =
      (next.play ledger state flag).after (.begun step) := by
  rw [play, h, if_neg Bool.false_ne_true]

theorem play_begin_of_arrives {step : Step} (stop next : Dialogue α) {state : σ} (flag : Bool)
    (h : ledger.arrives state step = true) :
    (begin step stop next).play ledger state flag = stop.play ledger state true := by
  rw [play, h, if_pos rfl]

/-- A call has the outcome that the ledger gives it, and the rest follows from that. -/
theorem play_ask {call : Call} (next : call.Outcome → Bool → Dialogue α) {state : σ} {flag : Bool}
    {outcome : call.Outcome} {raised : Bool} {state' : σ}
    (h : ledger.answer state flag call = (outcome, raised, state')) :
    (ask call next).play ledger state flag =
      ((next outcome (flag || raised)).play ledger state' (flag || raised)).after
        (.called ⟨call, outcome⟩) := by
  rw [play, h]

/-- Once up, the flag stays up. -/
theorem flag_play_of_raised (d : Dialogue α) (state : σ) :
    (d.play ledger state true).flag = true := by
  induction d generalizing state with
  | done result => rfl
  | begin step stop next ihstop ih =>
    cases h : ledger.arrives state step with
    | true =>
      rw [play_begin_of_arrives ledger stop next true h]
      exact ihstop state
    | false =>
      rw [play_begin ledger stop next true h]
      exact ih state
  | ask call next ih =>
    rcases h : ledger.answer state true call with ⟨outcome, raised, state'⟩
    rw [play_ask ledger next h]
    exact ih outcome true state'

/-- Only calls change the state of the ledger. -/
theorem state_play_of_history_nil (d : Dialogue α) (state : σ) (flag : Bool)
    (h : (d.play ledger state flag).history = []) :
    (d.play ledger state flag).state = state := by
  induction d generalizing state flag with
  | done result => rfl
  | begin step stop next ihstop ih =>
    cases harrives : ledger.arrives state step with
    | true =>
      rw [play_begin_of_arrives ledger stop next flag harrives] at h ⊢
      exact ihstop state true h
    | false =>
      rw [play_begin ledger stop next flag harrives] at h ⊢
      exact ih state flag h
  | ask call next ih =>
    rcases ha : ledger.answer state flag call with ⟨outcome, raised, state'⟩
    rw [play_ask ledger next ha, Played.history_after_called] at h
    exact absurd h (List.cons_ne_nil _ _)

/-- The last call leaves the ledger as it is at the end, and a flag that was up then is up there. -/
theorem exists_answer_of_getLast? (d : Dialogue α) (state : σ) (flag : Bool) {event : Event}
    (h : (d.play ledger state flag).history.getLast? = some event) :
    ∃ (state' : σ) (flag' raised : Bool),
      ledger.answer state' flag' event.1 =
        (event.2, raised, (d.play ledger state flag).state) ∧
      ((flag' || raised) = true → (d.play ledger state flag).flag = true) := by
  induction d generalizing state flag with
  | done result => simp [Played.history] at h
  | begin step stop next ihstop ih =>
    cases harrives : ledger.arrives state step with
    | true =>
      rw [play_begin_of_arrives ledger stop next flag harrives] at h ⊢
      exact ihstop state true h
    | false =>
      rw [play_begin ledger stop next flag harrives] at h ⊢
      exact ih state flag h
  | ask call next ih =>
    rcases ha : ledger.answer state flag call with ⟨outcome, raised, state'⟩
    rw [play_ask ledger next ha, Played.history_after_called] at h
    rw [play_ask ledger next ha, Played.state_after, Played.flag_after]
    cases hlater : ((next outcome (flag || raised)).play ledger state' (flag || raised)).history with
    | nil =>
      -- The call is the last one, and nothing changes the state after it.
      rw [hlater, List.getLast?_singleton, Option.some.injEq] at h
      subst h
      refine ⟨state, flag, raised, ?_, fun hup => ?_⟩
      · rw [ha, state_play_of_history_nil ledger _ _ _ hlater]
      · rw [hup]
        exact flag_play_of_raised ledger _ state'
    | cons first rest =>
      rw [hlater, List.getLast?_cons_cons, ← hlater] at h
      exact ih outcome (flag || raised) state' (flag || raised) h

end Dialogue

/-- The moments at which interrupts arrive: as calls with some numbers begin, as they end, and before
the flag is looked at for some steps. -/
structure Interrupts where
  before : Nat → Bool
  after : Nat → Bool
  atStep : Step → Bool

namespace Interrupts

def none : Interrupts := ⟨fun _ => false, fun _ => false, fun _ => false⟩

/-- An interrupt arrives during the call with a number. -/
def during (moments : Interrupts) (n : Nat) : Bool := moments.before n || moments.after n

end Interrupts

namespace Ledger

variable {σ : Type}

/-- A ledger that gives its answers without a look at the flag, and on which no interrupt arrives. -/
def calm (answers : σ → (call : Call) → call.Outcome × σ) : Ledger σ where
  answer state _ call := ((answers state call).1, false, (answers state call).2)

/-- A ledger on which interrupts also arrive at the given moments.  Its state goes with the number of
the next call. -/
def interrupted (ledger : Ledger σ) (moments : Interrupts) : Ledger (σ × Nat) where
  answer state flag call :=
    let (outcome, raised, next) := ledger.answer state.1 (flag || moments.before state.2) call
    (outcome, moments.during state.2 || raised, (next, state.2 + 1))
  arrives state step := ledger.arrives state.1 step || moments.atStep step

variable {answers : σ → (call : Call) → call.Outcome × σ} {state next : σ} {call : Call}
  {outcome : call.Outcome}

theorem answer_calm (flag : Bool)
    (h : answers state call = (outcome, next)) :
    (calm answers).answer state flag call = (outcome, false, next) := by
  simp only [calm, h]

theorem answer_interrupted_calm (moments : Interrupts) (n : Nat) (flag : Bool)
    (h : answers state call = (outcome, next)) :
    ((calm answers).interrupted moments).answer (state, n) flag call =
      (outcome, moments.during n, (next, n + 1)) := by
  simp only [interrupted, calm, h, Bool.or_false]

@[simp] theorem arrives_calm (step : Step) : (calm answers).arrives state step = false := rfl

@[simp] theorem arrives_interrupted_calm (moments : Interrupts) (n : Nat) (step : Step) :
    ((calm answers).interrupted moments).arrives (state, n) step = moments.atStep step :=
  Bool.false_or _

end Ledger

/-- Where no interrupts arrive besides the ledger's own, the run is the ledger's own. -/
theorem Dialogue.play_interrupted_none {σ α : Type} (ledger : Ledger σ) (d : Dialogue α)
    (state : σ) (n : Nat) (flag : Bool) :
    let p := d.play (ledger.interrupted .none) (state, n) flag
    let q := d.play ledger state flag
    p.trail = q.trail ∧ p.result = q.result ∧ p.flag = q.flag ∧ p.state.1 = q.state := by
  induction d generalizing state n flag with
  | done result => exact ⟨rfl, rfl, rfl, rfl⟩
  | begin step stop next ihstop ih =>
    have harrives : (ledger.interrupted .none).arrives (state, n) step =
        ledger.arrives state step := Bool.or_false _
    cases h : ledger.arrives state step with
    | true =>
      rw [play_begin_of_arrives _ stop next flag h,
        play_begin_of_arrives _ stop next flag (harrives.trans h)]
      exact ihstop state n true
    | false =>
      rw [play_begin _ stop next flag h, play_begin _ stop next flag (harrives.trans h)]
      obtain ⟨htrail, hrest⟩ := ih state n flag
      exact ⟨congrArg _ htrail, hrest⟩
  | ask call next ih =>
    rcases h : ledger.answer state flag call with ⟨outcome, raised, state'⟩
    have h' : (ledger.interrupted .none).answer (state, n) flag call =
        (outcome, raised, (state', n + 1)) := by
      simp only [Ledger.interrupted, Interrupts.during, Interrupts.none, Bool.or_false,
        Bool.false_or, h]
    rw [play_ask _ next h, play_ask _ next h']
    obtain ⟨htrail, hrest⟩ := ih outcome (flag || raised) state' (n + 1) (flag || raised)
    exact ⟨congrArg _ htrail, hrest⟩

end ClusterProbe
