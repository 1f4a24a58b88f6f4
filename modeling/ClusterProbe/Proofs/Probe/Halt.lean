import ClusterProbe.Ledger.Scripted
import ClusterProbe.Proofs.Probe.Course
import ClusterProbe.Proofs.Probe.Shape
import ClusterProbe.Proofs.Readings

/-!
# Probes that halt

Once the interrupt flag is up a probe makes no call any more, with one exception: there is no step
between the block hash and the transaction, so a transaction whose block hash has been given is still
sent.
-/

namespace ClusterProbe

/-! ## Readings of a probe -/

namespace Probe

variable {σ : Type} {ledger : Ledger σ} {state state' : σ} {flag raised : Bool}

theorem readings_enter_up (step : Step) (next : Dialogue Result) :
    (enter step true next).readings ledger state flag = [] := rfl

theorem readings_enter_down {step : Step} (next : Dialogue Result)
    (h : ledger.arrives state step = false) :
    (enter step false next).readings ledger state flag =
      ⟨.reached step, flag⟩ :: next.readings ledger state flag :=
  Dialogue.readings_begin ledger _ next flag h

theorem readings_enter_of_arrives {step : Step} (next : Dialogue Result)
    (h : ledger.arrives state step = true) :
    (enter step false next).readings ledger state flag = [⟨.reached step, true⟩] :=
  Dialogue.readings_begin_of_arrives ledger _ next flag h

variable {call : Call} {blame : LedgerFault → (flag : Bool) → ProbeFault}
  {next : call.Answer → (flag : Bool) → Dialogue Result}

theorem readings_ask_ok {answer : call.Answer}
    (h : ledger.answer state flag call = (.ok answer, raised, state')) :
    (ask call blame next).readings ledger state flag =
      ⟨.returned ⟨call, .ok answer⟩, flag || raised⟩ ::
        (next answer (flag || raised)).readings ledger state' (flag || raised) :=
  Dialogue.readings_ask ledger _ h

theorem readings_ask_error {abort : Abort LedgerFault}
    (h : ledger.answer state flag call = (.error abort, raised, state')) :
    (ask call blame next).readings ledger state flag =
      [⟨.returned ⟨call, .error abort⟩, flag || raised⟩] :=
  Dialogue.readings_ask ledger _ h

end Probe

/-! ## The flag is heeded -/

/-- A block hash has been given. -/
def Moment.isDated : Moment → Bool
  | .returned ⟨.blockhash, .ok _⟩ => true
  | _ => false

theorem Moment.isDated_returned {call : Call} (h : call ≠ .blockhash) (outcome : call.Outcome) :
    isDated (.returned ⟨call, outcome⟩) = false := by
  cases call with
  | blockhash => exact absurd rfl h
  | _ => rfl

/-- Nothing is read after the flag was up, apart from the return of the transaction that a block hash
has been given for. -/
inductive Heeded : List Reading → Prop where
  | nil : Heeded []
  | down (moment : Moment) {rest : List Reading} (h : Heeded rest) :
      Heeded (⟨moment, false⟩ :: rest)
  | up {moment : Moment} (h : moment.isDated = false) : Heeded [⟨moment, true⟩]
  | sent {moment : Moment} (h : moment.isDated = true) (transaction : Transaction)
      (outcome : Call.Outcome (.send transaction)) :
      Heeded [⟨moment, true⟩, ⟨.returned ⟨.send transaction, outcome⟩, true⟩]

/-- What comes after a reading of the flag up. -/
theorem Heeded.after_up {readings before after : List Reading} {moment : Moment}
    (h : Heeded readings) (hsplit : readings = before ++ ⟨moment, true⟩ :: after) :
    (moment.isDated = false → after = []) ∧
    (moment.isDated = true → ∃ transaction outcome,
      after = [⟨.returned ⟨.send transaction, outcome⟩, true⟩]) := by
  -- Only the last reading, or the last two, are of the flag up.
  induction h generalizing before with
  | nil => simp at hsplit
  | down first h ih =>
    cases before with
    | nil => simp at hsplit
    | cons reading before =>
      rw [List.cons_append, List.cons.injEq] at hsplit
      exact ih hsplit.2
  | up hdated =>
    cases before with
    | nil =>
      rw [List.nil_append, List.cons.injEq, Reading.mk.injEq] at hsplit
      obtain ⟨⟨rfl, -⟩, rfl⟩ := hsplit
      exact ⟨fun _ => rfl, fun h => absurd (hdated.symm.trans h) Bool.false_ne_true⟩
    | cons reading before => simp at hsplit
  | sent hdated transaction outcome =>
    cases before with
    | nil =>
      rw [List.nil_append, List.cons.injEq, Reading.mk.injEq] at hsplit
      obtain ⟨⟨rfl, -⟩, rfl⟩ := hsplit
      exact ⟨fun h => absurd (h.symm.trans hdated) Bool.false_ne_true,
        fun _ => ⟨transaction, outcome, rfl⟩⟩
    | cons reading before =>
      cases before with
      | nil =>
        simp only [List.cons_append, List.nil_append, List.cons.injEq, Reading.mk.injEq] at hsplit
        obtain ⟨-, ⟨rfl, -⟩, rfl⟩ := hsplit
        exact ⟨fun _ => rfl, fun h => absurd h Bool.false_ne_true⟩
      | cons reading' before => simp at hsplit

/-- From every state of every ledger on, and with the flag down, the dialogue heeds the flag. -/
def Careful (d : (flag : Bool) → Dialogue Probe.Result) : Prop :=
  ∀ (σ : Type) (ledger : Ledger σ) (state : σ), Heeded ((d false).readings ledger state false)

/-- The dialogue heeds the flag, and with the flag up it comes to nothing. -/
structure Obedient (d : (flag : Bool) → Dialogue Probe.Result) : Prop where
  careful : Careful d
  silent : ∀ (σ : Type) (ledger : Ledger σ) (state : σ), (d true).readings ledger state true = []

namespace Obedient

open Probe

theorem done (result : Result) : Obedient fun _ => .done result :=
  ⟨fun _ _ _ => .nil, fun _ _ _ => rfl⟩

/-- A step does not begin with the flag up, whatever follows it. -/
theorem enter (step : Step) {next : (flag : Bool) → Dialogue Result} (h : Careful next) :
    Obedient fun flag => Probe.enter step flag (next flag) := by
  refine ⟨fun σ ledger state => ?_, fun σ ledger state => readings_enter_up step (next true)⟩
  cases harrives : ledger.arrives state step with
  | true =>
    rw [readings_enter_of_arrives _ harrives]
    exact .up rfl
  | false =>
    rw [readings_enter_down _ harrives]
    exact .down _ (h σ ledger state)

/-- A call is made with the flag down, and what follows it heeds the flag. -/
theorem ask {call : Call} (hcall : call ≠ .blockhash)
    (blame : LedgerFault → (flag : Bool) → ProbeFault)
    {next : call.Answer → (flag : Bool) → Dialogue Result} (h : ∀ answer, Obedient (next answer)) :
    Careful fun _ => Probe.ask call blame next := by
  intro σ ledger state
  rcases ha : ledger.answer state false call with ⟨abort | answer, raised, state'⟩
  · rw [readings_ask_error ha]
    cases raised with
    | true => exact .up (Moment.isDated_returned hcall _)
    | false => exact .down _ .nil
  · rw [readings_ask_ok ha]
    cases raised with
    | true =>
      rw [Bool.or_true, (h answer).silent]
      exact .up (Moment.isDated_returned hcall _)
    | false => exact .down _ ((h answer).careful σ ledger state')

/-- The transaction is sent as soon as there is a block hash for it, and nothing after it is read with
the flag up. -/
theorem submit (endpoint : String) (transaction : BlockHash → Transaction)
    {next : Signature → (flag : Bool) → Dialogue Result} (h : ∀ signature, Obedient (next signature)) :
    Careful fun _ =>
      Probe.ask .blockhash (fun fault _ => .unreachable endpoint fault) fun blockhash _ =>
      hand .transaction (.send (transaction blockhash)) next := by
  intro σ ledger state
  rcases ha : ledger.answer state false .blockhash with ⟨abort | blockhash, raised, state'⟩
  · rw [readings_ask_error ha]
    cases raised with
    | true => exact .up rfl
    | false => exact .down _ .nil
  · rw [readings_ask_ok ha]
    cases raised with
    | false =>
      have hsend : Careful fun _ =>
          hand .transaction (.send (transaction blockhash)) next := ask (by simp) _ h
      exact .down _ (hsend σ ledger state')
    | true =>
      -- The flag is up, and what comes after the transaction is stopped by its first step.
      rcases hs : ledger.answer state' true (.send (transaction blockhash)) with
        ⟨abort | signature, raised', state''⟩
      · rw [hand, Bool.or_true, readings_ask_error hs, Bool.true_or]
        exact .sent rfl _ _
      · rw [hand, Bool.or_true, readings_ask_ok hs, Bool.true_or, (h signature).silent]
        exact .sent rfl _ _

/-- A probe heeds the flag as each part of it does. -/
theorem of_shaped {n : Nat} {d : (flag : Bool) → Dialogue Result} (h : Shaped n d) :
    Obedient d := by
  induction h with
  | done told => exact done _
  | enter step _ _ ih => exact enter step ih.careful
  | call step _ _ dates _ _ ih => exact enter step (ask dates _ ih)
  | submit step _ endpoint transaction _ ih => exact enter step (submit endpoint transaction ih)
  | await step _ submission signature _ ih => exact enter step (ask (by simp) _ fun _ => ih)

theorem course (config : Config) (around : Surroundings) :
    Obedient (Probe.course config around) :=
  of_shaped (Shaped.course config around)

end Obedient

namespace Probe

/-- With the flag up at the beginning no call is made, and once the flag is up when a step is reached
or a call returns, no call is made either, unless that call has given a block hash: then the
transaction is sent, and nothing follows it.  So a transaction is sent only if the flag was down at
the beginning, at each step before and after each call before, the block hash's apart. -/
theorem run_heeds_flag {σ : Type} (config : Config) (around : Surroundings) (ledger : Ledger σ)
    (state : σ) (flag : Bool) :
    let p := run config around ledger state flag
    let readings := (course config around flag).readings ledger state flag
    p.history = readings.filterMap Reading.event? ∧
    (flag = true → p.calls = []) ∧
    (∀ before moment after, readings = before ++ ⟨moment, true⟩ :: after →
      (moment.isDated = false → after = []) ∧
      (moment.isDated = true → ∃ transaction outcome,
        after = [⟨.returned ⟨.send transaction, outcome⟩, true⟩])) ∧
    ∀ before transaction outcome up after,
      readings = before ++ ⟨.returned ⟨.send transaction, outcome⟩, up⟩ :: after →
        flag = false ∧ ∀ reading ∈ before, reading.flag = true → reading.moment.isDated = true := by
  intro p readings
  have hobedient := Obedient.course config around
  have hheeded : Heeded readings := by
    cases flag with
    | true =>
      have hnone : readings = [] := hobedient.silent σ ledger state
      rw [hnone]
      exact .nil
    | false => exact hobedient.careful σ ledger state
  have hhistory : p.history = readings.filterMap Reading.event? :=
    (Dialogue.filterMap_event?_readings ledger _ state flag).symm
  refine ⟨hhistory, fun hflag => ?_, fun before moment after => hheeded.after_up,
    fun before transaction outcome up after hsplit => ⟨?_, fun reading hmem hup => ?_⟩⟩
  · subst hflag
    have hnone : readings = [] := hobedient.silent σ ledger state
    rw [Played.calls, hhistory, hnone]
    rfl
  · -- With the flag up there are no readings at all.
    cases flag with
    | false => rfl
    | true =>
      have hnone : readings = [] := hobedient.silent σ ledger state
      rw [hnone] at hsplit
      simp at hsplit
  · -- The transaction comes after the reading, so that the reading is a block hash's.
    obtain ⟨earlier, between, rfl⟩ := List.append_of_mem hmem
    obtain ⟨moment, raised⟩ := reading
    have hraised : raised = true := hup
    rw [hraised, List.append_assoc, List.cons_append] at hsplit
    cases hdated : moment.isDated with
    | true => rfl
    | false =>
      have hnone := (hheeded.after_up hsplit).1 hdated
      simp at hnone

/-- An interrupt that arrives while the block hash is asked for does not keep the transaction from
being sent. -/
theorem run_sends_with_flag_up :
    let around : Surroundings := ⟨fun _ => .error .notFound, .ofSeed (.replicate 32 0)⟩
    let script : LedgerScript := { blockhash := { answer := .replicate 32 9, raise := true } }
    ∃ before moment transaction outcome, moment.isDated = true ∧
      (course {} around false).readings script.ledger [] false =
        before ++ [⟨moment, true⟩, ⟨.returned ⟨.send transaction, outcome⟩, true⟩] := by
  intro around script
  let readings := (course {} around false).readings script.ledger [] false
  have hdated : readings.any (fun r => r.flag && r.moment.isDated) = true := by decide +kernel
  obtain ⟨⟨moment, flag⟩, hmem, hreading⟩ := List.any_eq_true.1 hdated
  obtain ⟨rfl, hmoment⟩ : flag = true ∧ moment.isDated = true := by simpa using hreading
  obtain ⟨before, after, hsplit⟩ := List.append_of_mem hmem
  have hheeded : Heeded readings := (Obedient.course {} around).careful _ script.ledger []
  obtain ⟨transaction, outcome, rfl⟩ := (hheeded.after_up hsplit).2 hmoment
  exact ⟨before, moment, transaction, outcome, hmoment, hsplit⟩

end Probe

end ClusterProbe
