import ClusterProbe.Proofs.Probe.Plan
import Mathlib.Data.List.Basic

/-!
# The calls of a probe

Whatever the ledger answers and whenever an interrupt arrives, a probe makes its calls in one order,
each of them once and only after all earlier ones had their answers, with the data that those
answers and the configuration give.
-/

open scoped List

namespace ClusterProbe

def Call.isSend : Call → Bool
  | .send _ => true
  | _ => false

/-- What a probe may have before it is the beginning of a plan, which fits as soon as more is called
for than the queries that every probe begins with. -/
theorem Itinerary.Planned.exists_plan {config : Config} {around : Surroundings} {it : Itinerary}
    (h : Planned config around it) :
    ∃ plan : Plan, it.legs.map Leg.event <+: plan.events config ∧
      (2 < it.legs.length → plan.Fits config around) := by
  -- A run that ends with the queries has no plan of its own, and any data will do for the rest.
  let idle (version : String) (fee : UInt64) : Plan :=
    ⟨.replicate 32 0, around.freshPayer, version, fee, 0, .replicate 64 0, .replicate 32 0,
      ⟨[], .ofFeeQuery (.replicate 32 0)⟩, .replicate 64 0⟩
  have hqueries (version : String) (fee : UInt64) :
      (Plan.queries config version fee).map Leg.event <+: (idle version fee).events config := by
    rw [← Plan.map_event_legs, Plan.legs, List.append_assoc, List.map_append]
    exact List.prefix_append _ _
  cases h with
  | badAddress fault _ => exact ⟨idle "" 0, List.nil_prefix, by simp⟩
  | tooLarge program version fee _ _ =>
    exact ⟨idle version fee, hqueries version fee, by simp [Plan.queries]⟩
  | badKeypair program version fee path fault _ _ _ _ =>
    exact ⟨idle version fee, hqueries version fee, by simp [Plan.queries]⟩
  | whole plan fits =>
    exact ⟨plan, plan.map_event_legs config ▸ List.prefix_rfl, fun _ => fits⟩

/-- A transaction is part of a plan once. -/
theorem Plan.countP_isSend_events (plan : Plan) (config : Config) :
    ((plan.events config).map (·.1)).countP Call.isSend = 1 := by
  unfold Plan.events
  cases config.keypair <;> rfl

/-- A plan ends with its transaction, taken and confirmed. -/
theorem Plan.submitted_sublist_events (plan : Plan) (config : Config) :
    [⟨.send plan.transaction, .ok plan.signature⟩, ⟨.confirm plan.signature, .ok ()⟩] <+
      plan.events config := by
  unfold Plan.events
  cases config.keypair with
  | none => exact List.sublist_append_right [_, _, _, _, _] _
  | some path => exact List.sublist_append_right [_, _, _] _

/-- What belongs to the airdrop comes before the transaction of a plan with a generated payer. -/
theorem Plan.funded_of_send {plan : Plan} {config : Config} {history before after : List Event}
    {transaction : Transaction} {outcome : Call.Outcome (.send transaction)}
    (hkeypair : config.keypair = none)
    (hcalls : history.map (·.1) <+: (plan.events config).map (·.1))
    (hhistory : history.dropLast <+: plan.events config)
    (hsplit : history = before ++ ⟨.send transaction, outcome⟩ :: after) :
    [⟨.airdrop plan.payer.publicKey plan.lamports, .ok plan.airdrop⟩,
      ⟨.confirm plan.airdrop, .ok ()⟩] <+ before := by
  -- The transaction is the sixth call, so the first five had their answers.
  have hlong : 4 < before.length := by
    by_contra hshort
    have hprefix : before.map (·.1) ++ [.send transaction] <+:
        ((plan.events config).map (·.1)).take 5 := by
      refine List.prefix_take_iff.2 ⟨List.IsPrefix.trans ?_ hcalls, ?_⟩
      · rw [hsplit, List.map_append, List.map_cons, List.prefix_append_right_inj]
        exact List.cons_prefix_cons.2 ⟨rfl, List.nil_prefix⟩
      · rw [List.length_append, List.length_map, List.length_singleton]
        omega
    have hmem : .send transaction ∈ ((plan.events config).map (·.1)).take 5 :=
      hprefix.subset (by simp)
    simp [events, hkeypair] at hmem
  have hbefore : before <+: plan.events config := by
    refine List.IsPrefix.trans ?_ hhistory
    rw [hsplit, List.dropLast_append_of_ne_nil (by simp)]
    exact List.prefix_append _ _
  have hfirst : (plan.events config).take 4 <+: before := by
    refine List.prefix_of_prefix_length_le (List.take_prefix 4 _) hbefore ?_
    have hle := List.length_take_le 4 (plan.events config)
    omega
  refine List.Sublist.trans ?_ hfirst.sublist
  simp only [events, hkeypair, List.take_succ_cons, List.take_zero]
  exact .cons _ (.cons _ (List.Sublist.refl _))

namespace Probe

/-- Every run is the beginning of a plan, up to a last call that may have failed. -/
theorem exists_plan_run {σ : Type} (config : Config) (around : Surroundings) (ledger : Ledger σ)
    (state : σ) (flag : Bool) :
    let p := run config around ledger state flag
    ∃ plan : Plan,
      p.calls <+: (plan.events config).map (·.1) ∧
      p.history.dropLast <+: plan.events config ∧
      (2 < p.calls.length → plan.Fits config around) := by
  intro p
  obtain ⟨it, hit, along⟩ : ∃ it, Itinerary.Planned config around it ∧
      Along it.result it.legs p.history p.result p.flag :=
    exists_along_run config around ledger state flag
  obtain ⟨plan, hplan, hfits⟩ := hit.exists_plan
  have hlegs : p.calls <+: (it.legs.map Leg.event).map (·.1) := by
    rw [List.map_map]
    exact along.calls_prefix
  refine ⟨plan, hlegs.trans (hplan.map _), along.dropLast_prefix.trans hplan, fun hlong => hfits ?_⟩
  have hle := hlegs.length_le
  rw [List.length_map, List.length_map] at hle
  omega

theorem countP_isSend_calls_le {σ : Type} (config : Config) (around : Surroundings)
    (ledger : Ledger σ) (state : σ) (flag : Bool) :
    (run config around ledger state flag).calls.countP Call.isSend ≤ 1 := by
  obtain ⟨plan, hcalls, -, -⟩ := exists_plan_run config around ledger state flag
  rw [← plan.countP_isSend_events config]
  exact hcalls.sublist.countP_le

/-- The calls of a probe are a prefix of the calls of a plan that fits its configuration: version,
fee, airdrop and its confirmation if the payer is generated, block hash, transaction, and the
transaction's confirmation.  Each call but the last one had the answer in the plan, so that no call
is made after one that failed, and none is made again: a transaction is handed in once at most, and
with a generated payer only after its airdrop is confirmed. -/
theorem run_calls {σ : Type} (config : Config) (around : Surroundings) (ledger : Ledger σ)
    (state : σ) (flag : Bool) :
    let p := run config around ledger state flag
    ∃ plan : Plan,
      p.calls <+: (plan.events config).map (·.1) ∧
      p.history.dropLast <+: plan.events config ∧
      (2 < p.calls.length → plan.Fits config around) ∧
      p.calls.countP Call.isSend ≤ 1 ∧
      (config.keypair = none → ∀ transaction, .send transaction ∈ p.calls →
        ⟨.confirm plan.airdrop, .ok ()⟩ ∈ p.history) := by
  intro p
  obtain ⟨plan, hcalls, hhistory, hfits⟩ := exists_plan_run config around ledger state flag
  refine ⟨plan, hcalls, hhistory, hfits, countP_isSend_calls_le config around ledger state flag,
    fun hkeypair transaction hsend => ?_⟩
  obtain ⟨⟨call, outcome⟩, hmem, rfl⟩ := List.mem_map.1 hsend
  obtain ⟨before, after, hsplit⟩ := List.append_of_mem hmem
  have hfunded := Plan.funded_of_send hkeypair hcalls hhistory hsplit
  show _ ∈ p.history
  rw [hsplit]
  exact List.mem_append_left _ (hfunded.subset (by simp))

end Probe

end ClusterProbe
