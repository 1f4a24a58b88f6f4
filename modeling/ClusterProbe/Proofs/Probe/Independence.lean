import ClusterProbe.Ledger.Scripted
import ClusterProbe.Proofs.Probe.Course
import ClusterProbe.Proofs.Probe.Plan

/-!
# Probes with a payer of their own

A probe with a configured payer works out the size of an airdrop that it never asks for.  So its run
does not depend on the fee, the multiplier, or what would come of an airdrop: two such probes, over
ledgers that agree on everything else, make the same calls and have the same result, but for the
number of lamports in the receipt.
-/

namespace ClusterProbe

/-- What has come of a call, but for the fee that was quoted. -/
def Event.unpriced : Event → Event
  | ⟨.fee, outcome⟩ => ⟨.fee, outcome.map fun _ => 0⟩
  | event => event

def Receipt.unpriced (r : Receipt) : Receipt := { r with lamports := 0 }

namespace Event

theorem outcome_eq_of_unpriced {call : Call} {outcome outcome' : call.Outcome} (hfee : call ≠ .fee)
    (h : unpriced ⟨call, outcome⟩ = unpriced ⟨call, outcome'⟩) : outcome = outcome' := by
  cases call with
  | fee => exact absurd rfl hfee
  | _ =>
    cases h
    rfl

/-- A fee is quoted in both cases, or there is the same fault. -/
theorem fee_of_unpriced {outcome outcome' : Call.fee.Outcome}
    (h : unpriced ⟨.fee, outcome⟩ = unpriced ⟨.fee, outcome'⟩) :
    (∃ abort, outcome = .error abort ∧ outcome' = .error abort) ∨
      ∃ fee fee', outcome = .ok fee ∧ outcome' = .ok fee' := by
  have hmap : (outcome.map fun _ => (0 : UInt64)) = outcome'.map fun _ => 0 :=
    eq_of_heq (Sigma.mk.inj h).2
  cases outcome with
  | error abort =>
    cases outcome' with
    | error abort' =>
      cases hmap
      exact .inl ⟨abort, rfl, rfl⟩
    | ok fee' => cases hmap
  | ok fee =>
    cases outcome' with
    | error abort' => cases hmap
    | ok fee' => exact .inr ⟨fee, fee', rfl, rfl⟩

end Event

/-! ## Two runs -/

/-- Two ledgers in related states let interrupts arrive at the same steps, and answer the same to
every call but that for an airdrop: they may quote different fees.  Then they are in related states
again. -/
structure Ledger.Agrees {σ τ : Type} (related : σ → τ → Prop) (ledger : Ledger σ)
    (ledger' : Ledger τ) : Prop where
  arrives : ∀ {state state'}, related state state' → ∀ step,
    ledger.arrives state step = ledger'.arrives state' step
  answer : ∀ {state state'}, related state state' → ∀ flag (call : Call),
    (∀ account lamports, call ≠ .airdrop account lamports) →
    let given := ledger.answer state flag call
    let given' := ledger'.answer state' flag call
    Event.unpriced ⟨call, given.1⟩ = Event.unpriced ⟨call, given'.1⟩ ∧
      given.2.1 = given'.2.1 ∧ related given.2.2 given'.2.2

namespace Played

variable {σ τ : Type}

/-- An airdrop has a size with every fee that was quoted. -/
def Affords {α : Type} (p : Played σ α) (multiplier : UInt64) : Prop :=
  ∀ fee : UInt64, ⟨.fee, .ok fee⟩ ∈ p.history → fee.toNat * multiplier.toNat < UInt64.size

/-- Two runs with the same calls, the same flag and the same result but for the lamports. -/
structure Alike (p : Played σ Probe.Result) (q : Played τ Probe.Result) : Prop where
  calls : p.calls = q.calls
  flag : p.flag = q.flag
  result : p.result.map Receipt.unpriced = q.result.map Receipt.unpriced

theorem Affords.of_after {α : Type} {p : Played σ α} {event : Event} {multiplier : UInt64}
    (h : (p.after (.called event)).Affords multiplier) : p.Affords multiplier := by
  intro fee hfee
  refine h fee ?_
  rw [history_after_called]
  exact List.mem_cons_of_mem event hfee

theorem Alike.after {p : Played σ Probe.Result} {q : Played τ Probe.Result} (h : p.Alike q)
    {call : Call} (outcome outcome' : call.Outcome) :
    (p.after (.called ⟨call, outcome⟩)).Alike (q.after (.called ⟨call, outcome'⟩)) :=
  ⟨congrArg (call :: ·) h.calls, h.flag, h.result⟩

end Played

/-- Two dialogues that make for runs alike on ledgers that agree, as long as an airdrop would have a
size in both of them. -/
def Dialogue.Alike (multiplier multiplier' : UInt64) (d d' : Dialogue Probe.Result) : Prop :=
  ∀ (σ τ : Type) (related : σ → τ → Prop) (ledger : Ledger σ) (ledger' : Ledger τ),
    ledger.Agrees related ledger' → ∀ state state', related state state' → ∀ flag,
    (d.play ledger state flag).Affords multiplier →
    (d'.play ledger' state' flag).Affords multiplier' →
    (d.play ledger state flag).Alike (d'.play ledger' state' flag)

namespace Dialogue.Alike

open Probe

variable {multiplier multiplier' : UInt64} {d d' : Dialogue Result}

theorem done {result result' : Result}
    (h : result.map Receipt.unpriced = result'.map Receipt.unpriced) :
    Alike multiplier multiplier' (.done result) (.done result') :=
  fun _ _ _ _ _ _ _ _ _ _ _ _ => ⟨rfl, rfl, h⟩

theorem enter (step : Step) (flag : Bool) (h : Alike multiplier multiplier' d d') :
    Alike multiplier multiplier' (Probe.enter step flag d) (Probe.enter step flag d') := by
  cases flag with
  | true => exact done rfl
  | false =>
    intro σ τ related ledger ledger' agrees state state' hstate flag hp hq
    have harrives := agrees.arrives hstate step
    cases hstep : ledger.arrives state step with
    | true =>
      rw [play_enter_of_arrives d hstep, play_enter_of_arrives d' (harrives.symm.trans hstep)]
      exact ⟨rfl, rfl, rfl⟩
    | false =>
      rw [play_enter_down d hstep] at hp ⊢
      rw [play_enter_down d' (harrives.symm.trans hstep)] at hq ⊢
      obtain ⟨hcalls, hflag, hresult⟩ := h _ _ _ _ _ agrees _ _ hstate flag hp hq
      exact ⟨hcalls, hflag, hresult⟩

theorem ask {call : Call} (hfee : call ≠ .fee)
    (hairdrop : ∀ account lamports, call ≠ .airdrop account lamports)
    (blame : LedgerFault → (flag : Bool) → ProbeFault)
    {next next' : call.Answer → (flag : Bool) → Dialogue Result}
    (h : ∀ answer flag, Alike multiplier multiplier' (next answer flag) (next' answer flag)) :
    Alike multiplier multiplier' (Probe.ask call blame next) (Probe.ask call blame next') := by
  intro σ τ related ledger ledger' agrees state state' hstate flag hp hq
  obtain ⟨houtcome, hraised, hrelated⟩ := agrees.answer hstate flag call hairdrop
  rcases hanswer : ledger.answer state flag call with ⟨outcome, raised, after⟩
  rcases hanswer' : ledger'.answer state' flag call with ⟨outcome', raised', after'⟩
  rw [hanswer, hanswer'] at houtcome hraised hrelated
  -- Only a fee may differ, so both runs fail in the same way or go on with the same answer.
  obtain rfl : outcome = outcome' := Event.outcome_eq_of_unpriced hfee houtcome
  obtain rfl : raised = raised' := hraised
  cases outcome with
  | error abort =>
    rw [play_ask_error hanswer, play_ask_error hanswer']
    exact ⟨rfl, rfl, rfl⟩
  | ok answer =>
    rw [play_ask_ok hanswer] at hp ⊢
    rw [play_ask_ok hanswer'] at hq ⊢
    have hrest := h answer (flag || raised)
    exact (hrest _ _ _ _ _ agrees _ _ hrelated _ hp.of_after hq.of_after).after _ _

/-- Whatever the fees, a run goes on alike once an airdrop has a size. -/
theorem fee (blame : LedgerFault → (flag : Bool) → ProbeFault)
    {next next' : UInt64 → (flag : Bool) → Dialogue Result}
    (h : ∀ fee fee' flag, fee.toNat * multiplier.toNat < UInt64.size →
      fee'.toNat * multiplier'.toNat < UInt64.size →
      Alike multiplier multiplier' (next fee flag) (next' fee' flag)) :
    Alike multiplier multiplier' (Probe.ask .fee blame next) (Probe.ask .fee blame next') := by
  intro σ τ related ledger ledger' agrees state state' hstate flag hp hq
  obtain ⟨houtcome, hraised, hrelated⟩ := agrees.answer hstate flag .fee (by simp)
  rcases hanswer : ledger.answer state flag .fee with ⟨outcome, raised, after⟩
  rcases hanswer' : ledger'.answer state' flag .fee with ⟨outcome', raised', after'⟩
  rw [hanswer, hanswer'] at houtcome hraised hrelated
  obtain rfl : raised = raised' := hraised
  rcases Event.fee_of_unpriced houtcome with ⟨abort, rfl, rfl⟩ | ⟨fee, fee', rfl, rfl⟩
  · rw [play_ask_error hanswer, play_ask_error hanswer']
    exact ⟨rfl, rfl, rfl⟩
  · rw [play_ask_ok hanswer] at hp ⊢
    rw [play_ask_ok hanswer'] at hq ⊢
    -- Each run has the fee that it was quoted in its own history, and an airdrop of that size.
    have hsize := hp fee (by rw [Played.history_after_called]; exact List.mem_cons_self)
    have hsize' := hq fee' (by rw [Played.history_after_called]; exact List.mem_cons_self)
    have hrest := h fee fee' (flag || raised) hsize hsize'
    exact (hrest _ _ _ _ _ agrees _ _ hrelated _ hp.of_after hq.of_after).after _ _

theorem callProgram {config config' : Config} (hendpoint : config.endpoint = config'.endpoint)
    (payer : Keypair) (program : PublicKey) (flag : Bool) {receipt receipt' : Signature → Receipt}
    (h : ∀ signature, (receipt signature).unpriced = (receipt' signature).unpriced) :
    Alike multiplier multiplier' (Probe.callProgram config payer program flag receipt)
      (Probe.callProgram config' payer program flag receipt') := by
  unfold Probe.callProgram query
  rw [hendpoint]
  refine enter _ _ (enter _ _ (ask (by simp) (by simp) _ fun blockhash flag => ?_))
  cases Transaction.signedBy payer blockhash (.probe program) with
  | error fault => exact done rfl
  | ok transaction =>
    refine ask (by simp) (by simp) _ fun signature flag => ?_
    refine enter _ _ (ask (by simp) (by simp) _ fun _ flag => done ?_)
    exact congrArg Except.ok (h signature)

/-- A configured payer gets no airdrop, so its size shows in the receipt alone. -/
theorem payAndCall {config config' : Config} {around around' : Surroundings} {path : Path}
    (hendpoint : config.endpoint = config'.endpoint) (hkeypair : config.keypair = some path)
    (hkeypair' : config'.keypair = some path) (hfile : around.readFile path = around'.readFile path)
    (program : PublicKey) (lamports lamports' : UInt64) (flag : Bool) :
    Alike multiplier multiplier' (Probe.payAndCall config around program lamports flag)
      (Probe.payAndCall config' around' program lamports' flag) := by
  have hload : KeypairFile.load around.readFile path = KeypairFile.load around'.readFile path := by
    rw [KeypairFile.load, KeypairFile.load, hfile]
  unfold Probe.payAndCall
  simp only [hkeypair, hkeypair', hload]
  cases KeypairFile.load around'.readFile path with
  | error fault => exact done rfl
  | ok payer => exact callProgram hendpoint payer program flag fun _ => rfl

theorem course {config config' : Config} {around around' : Surroundings} {path : Path}
    (hendpoint : config.endpoint = config'.endpoint) (haddress : config.address = config'.address)
    (hkeypair : config.keypair = some path) (hkeypair' : config'.keypair = some path)
    (hfile : around.readFile path = around'.readFile path) (flag : Bool) :
    Alike config.multiplier config'.multiplier (Probe.course config around flag)
      (Probe.course config' around' flag) := by
  have htarget : target config = target config' := by simp only [target, haddress]
  unfold Probe.course
  rw [htarget]
  refine enter _ _ ?_
  cases target config' with
  | error fault => exact done rfl
  | ok program =>
    unfold sizeAirdrop query
    rw [hendpoint]
    refine enter _ _ (ask (by simp) (by simp) _ fun version flag => ?_)
    refine enter _ _ (fee _ fun fee fee' flag hsize hsize' => ?_)
    have hsized {fee multiplier : UInt64} (h : fee.toNat * multiplier.toNat < UInt64.size) :
        ∃ lamports, Airdrop.size? fee multiplier = some lamports :=
      Option.ne_none_iff_exists'.1 fun hnone =>
        absurd (Airdrop.size?_eq_none_iff.1 hnone) (Nat.not_le.2 h)
    obtain ⟨lamports, hlamports⟩ := hsized hsize
    obtain ⟨lamports', hlamports'⟩ := hsized hsize'
    -- From here on the two sizes are all that tells the dialogues apart.
    simp only [hlamports, hlamports']
    exact enter _ _ (payAndCall hendpoint hkeypair hkeypair' hfile program lamports lamports' flag)

end Dialogue.Alike

/-- Every event of a run is an answer of the ledger. -/
theorem Dialogue.exists_answer_of_mem_history {σ α : Type} (ledger : Ledger σ) (d : Dialogue α)
    (state : σ) (flag : Bool) {event : Event} (h : event ∈ (d.play ledger state flag).history) :
    ∃ state' flag' raised after, ledger.answer state' flag' event.1 = (event.2, raised, after) := by
  induction d generalizing state flag with
  | done result => cases h
  | begin step stop next ihstop ih =>
    cases harrives : ledger.arrives state step with
    | true =>
      rw [play_begin_of_arrives ledger stop next flag harrives] at h
      exact ihstop state true h
    | false =>
      rw [play_begin ledger stop next flag harrives] at h
      exact ih state flag h
  | ask call next ih =>
    rcases ha : ledger.answer state flag call with ⟨outcome, raised, after⟩
    rw [play_ask ledger next ha, Played.history_after_called] at h
    rcases List.mem_cons.1 h with rfl | h
    · exact ⟨state, flag, raised, after, ha⟩
    · exact ih outcome (flag || raised) after (flag || raised) h

namespace Probe

/-- The lamports in a receipt are the exact multiple of the fee that was quoted in the run. -/
theorem exists_fee_of_ok {σ : Type} {config : Config} {around : Surroundings} {ledger : Ledger σ}
    {state : σ} {flag : Bool} {receipt : Receipt}
    (h : (run config around ledger state flag).result = .ok receipt) :
    ∃ fee : UInt64, ⟨.fee, .ok fee⟩ ∈ (run config around ledger state flag).history ∧
      receipt.lamports.toNat = fee.toNat * config.multiplier.toNat := by
  obtain ⟨plan, fits, hhistory, rfl⟩ := exists_plan_of_ok h
  refine ⟨plan.fee, ?_, fits.lamports⟩
  rw [hhistory]
  unfold Plan.events
  cases config.keypair <;> simp

/-- Two probes with the same endpoint, program and payer's file, over ledgers that may differ in the
fee and in everything about airdrops, make the same calls, with the same transaction among them, and
have the same result, whatever their multipliers.  Only the lamports in a receipt differ, and they
are the run's own exact product. -/
theorem run_ignores_airdrop {σ τ : Type} {related : σ → τ → Prop} {ledger : Ledger σ}
    {ledger' : Ledger τ} (agrees : ledger.Agrees related ledger') {config config' : Config}
    {around around' : Surroundings} {path : Path} (hendpoint : config.endpoint = config'.endpoint)
    (haddress : config.address = config'.address) (hkeypair : config.keypair = some path)
    (hkeypair' : config'.keypair = some path) (hfile : around.readFile path = around'.readFile path)
    {state : σ} {state' : τ} (hstate : related state state') (flag : Bool) :
    let p := run config around ledger state flag
    let q := run config' around' ledger' state' flag
    p.Affords config.multiplier → q.Affords config'.multiplier →
      p.calls = q.calls ∧ p.flag = q.flag ∧
      p.result.map Receipt.unpriced = q.result.map Receipt.unpriced ∧
      (∀ receipt, p.result = .ok receipt → ∃ fee : UInt64, ⟨.fee, .ok fee⟩ ∈ p.history ∧
        receipt.lamports.toNat = fee.toNat * config.multiplier.toNat) ∧
      ∀ receipt, q.result = .ok receipt → ∃ fee : UInt64, ⟨.fee, .ok fee⟩ ∈ q.history ∧
        receipt.lamports.toNat = fee.toNat * config'.multiplier.toNat := by
  intro p q hp hq
  obtain ⟨hcalls, hflag, hresult⟩ := Dialogue.Alike.course hendpoint haddress hkeypair hkeypair'
    hfile flag _ _ _ _ _ agrees _ _ hstate flag hp hq
  exact ⟨hcalls, hflag, hresult, fun _ => exists_fee_of_ok, fun _ => exists_fee_of_ok⟩

/-- Every file holds the key pair of the seed that is all zeros. -/
def zeroSeedFile : Surroundings where
  readFile _ :=
    let zeros := "0,0,0,0,0,0,0,0,0,0,0,0,0,0,0,0"
    let key := "59,106,39,188,206,182,164,45,98,163,168,208,42,111,13,115," ++
      "101,50,21,119,29,226,67,166,58,192,72,161,139,89,218,41"
    .ok (Utf8.encode ("[" ++ zeros ++ "," ++ zeros ++ "," ++ key ++ "]"))
  freshPayer := .ofSeed (.replicate 32 1)

/-- A low fee, and no airdrops. -/
def stingy : LedgerScript where
  fees := { answer := 7 }
  airdrop := { answer := .replicate 64 0, fault := some (.custom "airdrops are disabled") }

/-- A payer from a file, on a ledger that quotes 5000 lamports and gives airdrops, and on one that
quotes 7 and refuses them. -/
theorem run_ignores_airdrop_scripted :
    let config : Config := { keypair := some [] }
    let config' : Config := { multiplier := 2, keypair := some [] }
    let p := run config zeroSeedFile (LedgerScript.ledger {}) [] false
    let q := run config' zeroSeedFile stingy.ledger [] false
    (LedgerScript.ledger {}).Agrees Eq stingy.ledger ∧ p.Affords 100 ∧ q.Affords 2 ∧
      p.calls = q.calls ∧ p.result.toOption.map (·.lamports) = some 500000 ∧
      q.result.toOption.map (·.lamports) = some 14 := by
  intro config config'
  have hagrees : (LedgerScript.ledger {}).Agrees Eq stingy.ledger := by
    refine ⟨fun _ _ => rfl, ?_⟩
    rintro state _ rfl flag call hcall
    cases call with
    | airdrop account lamports => exact absurd rfl (hcall account lamports)
    | _ => exact ⟨rfl, rfl, rfl⟩
  have hquoted (script : LedgerScript) (config : Config) (fee fee' : UInt64)
      (houtcome : script.fees.outcome = .ok fee)
      (hfee : ⟨.fee, .ok fee'⟩ ∈ (run config zeroSeedFile script.ledger [] false).history) :
      fee' = fee := by
    obtain ⟨state, flag, raised, after, hanswer⟩ :=
      Dialogue.exists_answer_of_mem_history _ _ _ _ hfee
    exact Except.ok.inj ((congrArg Prod.fst hanswer).symm.trans houtcome)
  have hp : (run config zeroSeedFile (LedgerScript.ledger {}) [] false).Affords 100 := by
    intro fee hfee
    obtain rfl := hquoted {} _ 5000 fee rfl hfee
    decide
  have hq : (run config' zeroSeedFile stingy.ledger [] false).Affords 2 := by
    intro fee hfee
    obtain rfl := hquoted stingy _ 7 fee rfl hfee
    decide
  have hendpoint : config.endpoint = config'.endpoint := rfl
  have haddress : config.address = config'.address := rfl
  obtain ⟨hcalls, -⟩ := run_ignores_airdrop hagrees hendpoint haddress rfl rfl rfl rfl false hp hq
  exact ⟨hagrees, hp, hq, hcalls, by decide +kernel, by decide +kernel⟩

end Probe

end ClusterProbe
