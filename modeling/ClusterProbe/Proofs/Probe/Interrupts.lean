import ClusterProbe.Proofs.Probe.Course
import ClusterProbe.Proofs.Probe.Shape

/-!
# Interrupted probes

A probe on which an interrupt arrives is the probe without the interrupt, cut short: it makes the
same calls up to the first step that would begin after the interrupt, and stops there.  Only a wait
that fails with the flag up is told as an interrupt without being cut.
-/

namespace ClusterProbe

namespace Trail

/-- The first step that begins on a trail. -/
def firstStep (trail : List Mark) : Option Step := trail.findSome? Mark.step?

/-- The step in progress at the end of a trail. -/
def lastStep (trail : List Mark) : Option Step := (trail.filterMap Mark.step?).getLast?

/-- A trail that ends with a confirmation that failed. -/
def LostWait (trail : List Mark) : Prop :=
  ∃ signature fault, trail.getLast? = some (.called ⟨.confirm signature, .error (.failed fault)⟩)

/-- What is left of a trail once an interrupt has arrived and the flag is up.  The calls of the trail
are numbered from `n` on. -/
def afterRise (moments : Interrupts) : (n : Nat) → (flag : Bool) → List Mark → List Mark
  | _, true, trail => trail
  | _, false, [] => []
  | n, false, .begun step :: rest =>
    if moments.atStep step then .begun step :: rest else afterRise moments n false rest
  | n, false, .called _ :: rest => afterRise moments (n + 1) (moments.during n) rest

@[simp] theorem afterRise_up (moments : Interrupts) (n : Nat) (trail : List Mark) :
    afterRise moments n true trail = trail := by
  cases trail <;> rfl

theorem firstStep_afterRise_nil (moments : Interrupts) (n : Nat) (flag : Bool) :
    firstStep (afterRise moments n flag []) = none := by
  cases flag <;> rfl

/-- A step sees an interrupt that has arrived before it. -/
theorem firstStep_afterRise_begun {moments : Interrupts} {flag : Bool} {step : Step}
    (h : flag = true ∨ moments.atStep step = true) (n : Nat) (trail : List Mark) :
    firstStep (afterRise moments n flag (.begun step :: trail)) = some step := by
  cases flag with
  | true => rfl
  | false =>
    rw [afterRise, if_pos (h.resolve_left Bool.false_ne_true)]
    rfl

theorem afterRise_begun {moments : Interrupts} {step : Step} (h : moments.atStep step = false)
    (n : Nat) (trail : List Mark) :
    afterRise moments n false (.begun step :: trail) = afterRise moments n false trail := by
  rw [afterRise, h, if_neg Bool.false_ne_true]

theorem firstStep_afterRise_called (moments : Interrupts) (n : Nat) (flag : Bool) (event : Event)
    (trail : List Mark) :
    firstStep (afterRise moments n flag (.called event :: trail)) =
      firstStep (afterRise moments (n + 1) (flag || moments.during n) trail) := by
  cases flag with
  | false => rw [afterRise, Bool.false_or]
  | true =>
    rw [Bool.true_or, afterRise_up, afterRise_up]
    rfl

/-- No step begins after a call that is the last thing on a trail. -/
theorem firstStep_afterRise_last (moments : Interrupts) (n : Nat) (flag : Bool) (event : Event) :
    firstStep (afterRise moments n flag [.called event]) = none := by
  rw [firstStep_afterRise_called, firstStep_afterRise_nil]

theorem lostWait_begun (step : Step) (trail : List Mark) :
    LostWait (.begun step :: trail) ↔ LostWait trail := by
  cases trail with
  | nil => simp [LostWait]
  | cons mark rest => simp [LostWait, List.getLast?_cons_cons]

theorem lostWait_called {call : Call} (answer : call.Answer) (trail : List Mark) :
    LostWait (.called ⟨call, .ok answer⟩ :: trail) ↔ LostWait trail := by
  cases trail with
  | nil =>
    have hne (signature : Signature) (fault : LedgerFault) :
        (⟨call, .ok answer⟩ : Event) ≠ ⟨.confirm signature, .error (.failed fault)⟩ := by
      intro h
      cases call <;> simp at h
    simp [LostWait, hne]
  | cons mark rest => simp [LostWait, List.getLast?_cons_cons]

theorem lastStep_cons {trail : List Mark} {step : Step} (mark : Mark)
    (h : lastStep trail = some step) : lastStep (mark :: trail) = some step := by
  cases mark with
  | begun first =>
    change (first :: trail.filterMap Mark.step?).getLast? = some step
    change (trail.filterMap Mark.step?).getLast? = some step at h
    rw [List.getLast?_cons, h]
    rfl
  | called event => exact h

end Trail

/-- How a probe with interrupts compares to the calm one, from a call with the number `n` and a
flag on. -/
inductive CutShort {σ : Type} (moments : Interrupts) (n : Nat) (flag : Bool)
    (p : Played (σ × Nat) Probe.Result) (q : Played σ Probe.Result) : Prop where
  /-- It stops at the first step after the interrupt. -/
  | stopped (step : Step)
      (first : Trail.firstStep (Trail.afterRise moments n flag q.trail) = some step)
      (trail : p.trail ++ [.begun step] <+: q.trail)
      (result : p.result = .error (.failed (.interrupted step)))
  /-- It ends with a wait that fails with the flag up. -/
  | lost (step : Step)
      (first : Trail.firstStep (Trail.afterRise moments n flag q.trail) = none)
      (trail : p.trail = q.trail) (flag : p.flag = true) (lost : Trail.LostWait q.trail)
      (last : Trail.lastStep q.trail = some step)
      (result : p.result = .error (.failed (.interrupted step)))
  | whole (first : Trail.firstStep (Trail.afterRise moments n flag q.trail) = none)
      (trail : p.trail = q.trail) (kept : p.flag = true → ¬ Trail.LostWait q.trail)
      (result : p.result = q.result)

namespace CutShort

variable {σ : Type} {moments : Interrupts} {n : Nat} {flag : Bool}
  {p : Played (σ × Nat) Probe.Result} {q : Played σ Probe.Result}

theorem begun {step : Step} (hstep : moments.atStep step = false)
    (h : CutShort moments n false p q) :
    CutShort moments n false (p.after (.begun step)) (q.after (.begun step)) := by
  have hrise : Trail.afterRise moments n false (q.after (.begun step)).trail =
      Trail.afterRise moments n false q.trail := Trail.afterRise_begun hstep n q.trail
  cases h with
  | stopped s first trail result =>
    exact .stopped s (hrise ▸ first) (List.cons_prefix_cons.2 ⟨rfl, trail⟩) result
  | lost s first trail up lost last result =>
    exact .lost s (hrise ▸ first) (congrArg _ trail) up ((Trail.lostWait_begun _ _).2 lost)
      (Trail.lastStep_cons _ last) result
  | whole first trail kept result =>
    exact .whole (hrise ▸ first) (congrArg _ trail)
      (fun up lost => kept up ((Trail.lostWait_begun _ _).1 lost)) result

theorem called {call : Call} (answer : call.Answer)
    (h : CutShort moments (n + 1) (flag || moments.during n) p q) :
    CutShort moments n flag (p.after (.called ⟨call, .ok answer⟩))
      (q.after (.called ⟨call, .ok answer⟩)) := by
  cases h with
  | stopped s first trail result =>
    exact .stopped s ((Trail.firstStep_afterRise_called ..).trans first)
      (List.cons_prefix_cons.2 ⟨rfl, trail⟩) result
  | lost s first trail up lost last result =>
    exact .lost s ((Trail.firstStep_afterRise_called ..).trans first) (congrArg _ trail) up
      ((Trail.lostWait_called answer _).2 lost) (Trail.lastStep_cons _ last) result
  | whole first trail kept result =>
    exact .whole ((Trail.firstStep_afterRise_called ..).trans first) (congrArg _ trail)
      (fun up lost => kept up ((Trail.lostWait_called answer _).1 lost)) result

theorem calls_prefix (h : CutShort moments n flag p q) : p.calls <+: q.calls := by
  apply Played.calls_prefix_of_trail
  cases h with
  | stopped step _ trail _ => exact (List.prefix_append _ _).trans trail
  | lost step _ trail _ _ _ _ => exact trail ▸ List.prefix_rfl
  | whole _ trail _ _ => exact trail ▸ List.prefix_rfl

end CutShort

open Probe

/-- From every state of the ledger and every flag on, the dialogue that begins with that flag is cut
short by interrupts, and without them it never tells of one. -/
def Truncated (d : (flag : Bool) → Dialogue Probe.Result) : Prop :=
  ∀ (σ : Type) (answers : σ → (call : Call) → call.Outcome × σ) (moments : Interrupts) (state : σ)
    (n : Nat) (flag : Bool),
    CutShort moments n flag
        ((d flag).play ((Ledger.calm answers).interrupted moments) (state, n) flag)
        ((d false).play (Ledger.calm answers) state false) ∧
      ∀ step, ((d false).play (Ledger.calm answers) state false).result ≠
        .error (.failed (.interrupted step))

namespace Truncated

theorem done {result : Probe.Result} (h : ∀ step, result ≠ .error (.failed (.interrupted step))) :
    Truncated fun _ => .done result := by
  intro σ answers moments state n flag
  refine ⟨.whole (Trail.firstStep_afterRise_nil ..) rfl (fun _ => ?_) rfl, h⟩
  simp [Trail.LostWait]

section Steps

variable {σ : Type} {answers : σ → (call : Call) → call.Outcome × σ} {moments : Interrupts}
  {state : σ} {flag : Bool} {step : Step}

/-- The first step after an interrupt does not begin. -/
theorem enter_of_rise (h : flag = true ∨ moments.atStep step = true) (n : Nat)
    (next next' : Dialogue Probe.Result) :
    CutShort moments n flag
      ((Probe.enter step flag next').play ((Ledger.calm answers).interrupted moments) (state, n)
        flag)
      ((Probe.enter step false next).play (Ledger.calm answers) state false) := by
  rw [play_enter_down next (Ledger.arrives_calm step)]
  let trail := (next.play (Ledger.calm answers) state false).trail
  have hfirst := Trail.firstStep_afterRise_begun h n trail
  have hprefix : [] ++ [Mark.begun step] <+: .begun step :: trail :=
    List.prefix_append [Mark.begun step] trail
  cases flag with
  | true =>
    rw [play_enter_up]
    exact .stopped step hfirst hprefix rfl
  | false =>
    have harrives : ((Ledger.calm answers).interrupted moments).arrives (state, n) step = true :=
      (Ledger.arrives_interrupted_calm ..).trans (h.resolve_left Bool.false_ne_true)
    rw [play_enter_of_arrives next' harrives]
    exact .stopped step hfirst hprefix rfl

/-- A step that no interrupt has arrived before begins in both runs. -/
theorem play_enter_of_calm (h : moments.atStep step = false) (n : Nat)
    (next : Dialogue Probe.Result) :
    (Probe.enter step false next).play ((Ledger.calm answers).interrupted moments) (state, n)
        false =
      (next.play ((Ledger.calm answers).interrupted moments) (state, n) false).after
        (.begun step) :=
  play_enter_down next ((Ledger.arrives_interrupted_calm ..).trans h)

end Steps

theorem enter (step : Step) {next : (flag : Bool) → Dialogue Probe.Result} (h : Truncated next) :
    Truncated fun flag => Probe.enter step flag (next flag) := by
  intro σ answers moments state n flag
  obtain ⟨hcut, hcalm⟩ := h σ answers moments state n false
  -- Either the step is the first one after an interrupt, or both runs begin it.
  by_cases hrise : flag = true ∨ moments.atStep step = true
  · refine ⟨enter_of_rise hrise n _ _, ?_⟩
    rw [play_enter_down _ (Ledger.arrives_calm step)]
    exact hcalm
  · obtain ⟨hflag, hstep⟩ := not_or.1 hrise
    rw [Bool.not_eq_true] at hflag hstep
    subst hflag
    rw [play_enter_down _ (Ledger.arrives_calm step), play_enter_of_calm hstep]
    exact ⟨hcut.begun hstep, hcalm⟩

/-- A call other than a wait is made with the flag up as it is with the flag down. -/
theorem ask {call : Call} (hcall : ∀ signature, call ≠ .confirm signature)
    {blame : LedgerFault → ProbeFault} (hblame : ∀ fault step, blame fault ≠ .interrupted step)
    {next : call.Answer → (flag : Bool) → Dialogue Probe.Result}
    (h : ∀ answer, Truncated (next answer)) :
    Truncated fun _ => Probe.ask call (fun fault _ => blame fault) next := by
  intro σ answers moments state n flag
  rcases ha : answers state call with ⟨abort | answer, state'⟩
  · -- What the failure is put down to does not depend on the flag, so both runs end alike.
    rw [play_ask_error (Ledger.answer_calm false ha),
      play_ask_error (Ledger.answer_interrupted_calm moments n flag ha)]
    refine ⟨.whole (Trail.firstStep_afterRise_last ..) rfl (fun _ => ?_) rfl, fun step => ?_⟩
    · rintro ⟨signature, fault, hlast⟩
      simp only [List.getLast?_singleton, Option.some.injEq, Mark.called.injEq,
        Sigma.mk.injEq] at hlast
      exact hcall signature hlast.1
    · cases abort with
      | failed fault => simpa [Abort.map] using hblame fault step
      | crashed text => simp [Abort.map]
  · rw [play_ask_ok (Ledger.answer_calm false ha),
      play_ask_ok (Ledger.answer_interrupted_calm moments n flag ha)]
    obtain ⟨hcut, hcalm⟩ := h answer σ answers moments state' (n + 1) (flag || moments.during n)
    exact ⟨hcut.called answer, hcalm⟩

/-- A wait that fails with the flag up is told as an interrupt, and nothing follows it. -/
theorem await (step : Step) (submission : Submission) (signature : Signature)
    {next : (flag : Bool) → Dialogue Probe.Result} (h : Truncated next) :
    Truncated fun flag => Probe.await step submission signature flag next := by
  intro σ answers moments state n flag
  unfold Probe.await
  refine ⟨?_, fun s => ?_⟩
  · by_cases hrise : flag = true ∨ moments.atStep step = true
    · exact enter_of_rise hrise n _ _
    obtain ⟨hflag, hstep⟩ := not_or.1 hrise
    rw [Bool.not_eq_true] at hflag hstep
    subst hflag
    rw [play_enter_down _ (Ledger.arrives_calm step), play_enter_of_calm hstep]
    rcases ha : answers state (.confirm signature) with ⟨abort | answer, state'⟩
    · -- The wait fails: it is lost if the flag rises in it, and told as it is otherwise.
      rw [play_ask_error (Ledger.answer_calm false ha),
        play_ask_error (Ledger.answer_interrupted_calm moments n false ha)]
      have hfirst : Trail.firstStep (Trail.afterRise moments n false
          [.begun step, .called ⟨.confirm signature, .error abort⟩]) = none := by
        rw [Trail.afterRise_begun hstep]
        exact Trail.firstStep_afterRise_last ..
      cases abort with
      | crashed text => exact .whole hfirst rfl (fun _ => by simp [Trail.LostWait]) rfl
      | failed fault =>
        cases hn : moments.during n with
        | true => exact .lost step hfirst rfl rfl ⟨signature, fault, rfl⟩ rfl rfl
        | false => exact .whole hfirst rfl (fun hup => absurd hup (by simp)) rfl
    · rw [play_ask_ok (Ledger.answer_calm false ha),
        play_ask_ok (Ledger.answer_interrupted_calm moments n false ha)]
      obtain ⟨hcut, -⟩ := h σ answers moments state' (n + 1) (false || moments.during n)
      exact (hcut.called answer).begun hstep
  · -- In the calm run the flag is down after the wait, whatever it comes to.
    rw [play_enter_down _ (Ledger.arrives_calm step)]
    rcases ha : answers state (.confirm signature) with ⟨abort | answer, state'⟩
    · rw [play_ask_error (Ledger.answer_calm false ha)]
      cases abort <;> simp [Abort.map]
    · rw [play_ask_ok (Ledger.answer_calm false ha)]
      exact (h σ answers moments state' (n + 1) false).2 s

/-- What is cut short in each part of a probe is cut short in the whole of it. -/
theorem of_shaped {n : Nat} {d : (flag : Bool) → Dialogue Probe.Result} (h : Shaped n d) :
    Truncated d := by
  induction h with
  | done told => exact done told
  | enter step _ _ ih => exact enter step ih
  | call step _ waits _ told _ ih => exact enter step (ask waits told ih)
  | submit step _ endpoint transaction _ ih =>
    exact enter step (ask (by simp) (by simp) fun blockhash => ask (by simp) (by simp) ih)
  | await step _ submission signature _ ih => exact await step submission signature ih

theorem course (config : Config) (around : Surroundings) :
    Truncated (Probe.course config around) :=
  of_shaped (Shaped.course config around)

end Truncated

namespace Probe

/-- An interrupt only truncates a run.  Against a ledger that gives the same answers, a probe on
which interrupts arrive, before it, during its calls or between them, makes a prefix of the calls of
the probe on which none arrives.  It has the same result, or is interrupted at the first step that
would have begun after the interrupt or in a wait that failed with the flag up; and it has the same
result just if no step was to begin after the interrupt and no wait failed with the flag up. -/
theorem run_interrupted {σ : Type} (config : Config) (around : Surroundings)
    (answers : σ → (call : Call) → call.Outcome × σ) (state : σ) (moments : Interrupts)
    (flag : Bool) :
    let calm := run config around (.calm answers) state false
    let cut := run config around ((Ledger.calm answers).interrupted moments) (state, 0) flag
    let first := Trail.firstStep (Trail.afterRise moments 0 flag calm.trail)
    let lost := cut.flag = true ∧ Trail.LostWait calm.trail
    cut.calls <+: calm.calls ∧
      (cut.result = calm.result ∨
        ∃ step, cut.result = .error (.failed (.interrupted step)) ∧
          (first = some step ∨
            first = none ∧ lost ∧ Trail.lastStep calm.trail = some step)) ∧
      (cut.result = calm.result ↔ first = none ∧ ¬ lost) := by
  intro calm cut first lost
  -- The calm run is never told as an interrupt, so an interrupted one differs from it.
  obtain ⟨hcut, hcalm⟩ : CutShort moments 0 flag cut calm ∧
      ∀ step, calm.result ≠ .error (.failed (.interrupted step)) :=
    Truncated.course config around σ answers moments state 0 flag
  refine ⟨hcut.calls_prefix, ?_⟩
  cases hcut with
  | stopped step hfirst _ hresult =>
    refine ⟨.inr ⟨step, hresult, .inl hfirst⟩, ?_⟩
    exact iff_of_false (fun h => hcalm step (h ▸ hresult)) (by simp [first, hfirst])
  | lost step hfirst _ hup hlost hlast hresult =>
    refine ⟨.inr ⟨step, hresult, .inr ⟨hfirst, ⟨hup, hlost⟩, hlast⟩⟩, ?_⟩
    exact iff_of_false (fun h => hcalm step (h ▸ hresult)) (fun h => h.2 ⟨hup, hlost⟩)
  | whole hfirst _ hkept hresult =>
    exact ⟨.inl hresult, iff_of_true hresult ⟨hfirst, fun h => hkept h.1 h.2⟩⟩

end Probe

end ClusterProbe
