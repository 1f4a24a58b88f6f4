import ClusterProbe.Ledger.Scripted
import ClusterProbe.Proofs.Probe.Plan

/-!
# The verdict of a probe

Without an interrupt a probe succeeds just if nothing is wrong with its configuration and with the
answers that it gets; otherwise it reports the first of the things that are wrong.
-/

namespace ClusterProbe

/-- What can go wrong with a probe. -/
inductive Hazard where
  | address
  | handshake
  | fee
  | size
  | keypair
  | airdrop
  | airdropWait
  | blockhash
  | send
  | transactionWait

namespace Hazard

/-- The order in which a probe meets the hazards. -/
def order : List Hazard :=
  [.address, .handshake, .fee, .size, .keypair, .airdrop, .airdropWait, .blockhash, .send,
    .transactionWait]

/-- What there is to say against the address of the program. -/
def badAddress? (config : Config) : Option (Abort ProbeFault) :=
  match PublicKey.ofBase58 config.address with
  | .error fault => some (.failed (.badAddress config.address fault))
  | .ok _ => none

/-- What there is to say against the file of the payer. -/
def badKeypair? (config : Config) (around : Surroundings) : Option (Abort ProbeFault) :=
  match config.keypair with
  | none => none
  | some path =>
    match KeypairFile.load around.readFile path with
    | .error fault => some (.failed (.badKeypair path fault.message))
    | .ok _ => none

/-- What there is to say against a fee. -/
def tooLarge? (config : Config) (lamports : UInt64) : Option (Abort ProbeFault) :=
  if UInt64.size ≤ lamports.toNat * config.multiplier.toNat
  then some (.failed (.airdropTooLarge lamports config.multiplier)) else none

/-- What a hazard has done to a probe with the given calls and outcomes. -/
def setback? (config : Config) (around : Surroundings) (history : List Event) :
    Hazard → Option (Abort ProbeFault)
  | .address => badAddress? config
  | .handshake => history.findSome? fun
    | ⟨.handshake, .error abort⟩ => some (abort.map (.unreachable config.endpoint))
    | _ => none
  | .fee => history.findSome? fun
    | ⟨.fee, .error abort⟩ => some (abort.map (.unreachable config.endpoint))
    | _ => none
  | .size => history.findSome? fun
    | ⟨.fee, .ok lamports⟩ => tooLarge? config lamports
    | _ => none
  | .keypair => badKeypair? config around
  | .airdrop => history.findSome? fun
    | ⟨.airdrop _ lamports, .error abort⟩ => some (abort.map (.rejected (.airdrop lamports)))
    | _ => none
  | .airdropWait => (history.zip history.tail).findSome? fun
    | (⟨.airdrop _ lamports, .ok signature⟩, ⟨.confirm _, .error abort⟩) =>
      some (abort.map (.unconfirmed (.airdrop lamports) signature))
    | _ => none
  | .blockhash => history.findSome? fun
    | ⟨.blockhash, .error abort⟩ => some (abort.map (.unreachable config.endpoint))
    | _ => none
  | .send => history.findSome? fun
    | ⟨.send _, .error abort⟩ => some (abort.map (.rejected .transaction))
    | _ => none
  | .transactionWait => (history.zip history.tail).findSome? fun
    | (⟨.send _, .ok signature⟩, ⟨.confirm _, .error abort⟩) =>
      some (abort.map (.unconfirmed .transaction signature))
    | _ => none

/-- What the first hazard that did something has done. -/
def first? (config : Config) (around : Surroundings) (history : List Event) :
    Option (Abort ProbeFault) :=
  order.findSome? (setback? config around history)

end Hazard

/-- Nothing is wrong with a probe: its address is one, its payer is there or gets an airdrop of the
size that there is, and each thing that it calls for and waits for succeeds. -/
structure Clean (config : Config) (around : Surroundings) (history : List Event) : Prop where
  address : ∃ program, PublicKey.ofBase58 config.address = .ok program
  handshake : ∃ version, ⟨.handshake, .ok version⟩ ∈ history
  fee : ∃ fee : UInt64, ⟨.fee, .ok fee⟩ ∈ history ∧ fee.toNat * config.multiplier.toNat < UInt64.size
  payer : match config.keypair with
    | some path => ∃ payer, KeypairFile.load around.readFile path = .ok payer
    | none => ∃ account lamports signature, ⟨.airdrop account lamports, .ok signature⟩ ∈ history
  blockhash : ∃ blockhash, ⟨.blockhash, .ok blockhash⟩ ∈ history
  send : ∃ transaction signature, ⟨.send transaction, .ok signature⟩ ∈ history
  confirm : ∀ signature abort, ⟨.confirm signature, .error abort⟩ ∉ history

/-- A result is what a probe with the given calls and outcomes should come to. -/
structure Verdict (config : Config) (around : Surroundings) (history : List Event)
    (result : Probe.Result) : Prop where
  ok_iff : (∃ receipt, result = .ok receipt) ↔ Clean config around history
  error_iff : ∀ abort, result = .error abort ↔ Hazard.first? config around history = some abort

namespace Verdict

variable {config : Config} {around : Surroundings} {history : List Event} {result : Probe.Result}

theorem of_ok {receipt : Receipt} (hclean : Clean config around history)
    (hfirst : Hazard.first? config around history = none) :
    Verdict config around history (.ok receipt) where
  ok_iff := iff_of_true ⟨receipt, rfl⟩ hclean
  error_iff abort := by rw [hfirst]; exact iff_of_false nofun nofun

theorem of_error {abort : Abort ProbeFault} (hclean : ¬ Clean config around history)
    (hfirst : Hazard.first? config around history = some abort) :
    Verdict config around history (.error abort) where
  ok_iff := iff_of_false nofun hclean
  error_iff other := by rw [hfirst, Except.error.injEq, Option.some.injEq]

variable {final : Probe.Result} {legs : List Leg}

theorem badAddress?_eq_none {program : PublicKey}
    (haddress : PublicKey.ofBase58 config.address = .ok program) :
    Hazard.badAddress? config = none := by
  simp only [Hazard.badAddress?, haddress]

/-- The queries that every probe begins with fail for one of two hazards, or lead on. -/
theorem or_queries {version : String} {fee : UInt64} (haddress : Hazard.badAddress? config = none)
    (h : Along final (Plan.queries config version fee ++ legs) history result false) :
    Verdict config around history result ∨
    ∃ rest, history = ⟨.handshake, .ok version⟩ :: ⟨.fee, .ok fee⟩ :: rest ∧
      Along final legs rest result false := by
  rcases h.of_cons with ⟨abort, rfl, rfl⟩ | ⟨history, rfl, h'⟩
  · refine .inl (of_error (fun clean => ?_) ?_)
    · simpa using clean.handshake
    · simp [Hazard.first?, Hazard.order, Hazard.setback?, haddress]
  rcases h'.of_cons with ⟨abort, rfl, rfl⟩ | ⟨history, rfl, h''⟩
  · refine .inl (of_error (fun clean => ?_) ?_)
    · simpa using clean.fee
    · simp [Hazard.first?, Hazard.order, Hazard.setback?, haddress]
  exact .inr ⟨history, rfl, h''⟩

variable {plan : Plan}

theorem badKeypair?_of_fits (fits : plan.Fits config around) :
    Hazard.badKeypair? config around = none := by
  unfold Hazard.badKeypair?
  cases hkeypair : config.keypair with
  | none => rfl
  | some path => simp only [fits.load hkeypair]

theorem tooLarge?_of_fits (fits : plan.Fits config around) :
    Hazard.tooLarge? config plan.fee = none :=
  if_neg fits.small

/-- A payer without funds gets an airdrop, which fails for one of two hazards, or leads on. -/
theorem or_funding (fits : plan.Fits config around) (hkeypair : config.keypair = none)
    (h : Along final (plan.funding ++ legs) history result false) :
    Verdict config around
      (⟨.handshake, .ok plan.version⟩ :: ⟨.fee, .ok plan.fee⟩ :: history) result ∨
    ∃ rest, history = plan.funding.map Leg.event ++ rest ∧
      Along final legs rest result false := by
  rcases h.of_cons with ⟨abort, rfl, rfl⟩ | ⟨history, rfl, h'⟩
  · refine .inl (of_error (fun clean => ?_) ?_)
    · simpa [hkeypair] using clean.payer
    · simp [Hazard.first?, Hazard.order, Hazard.setback?, badAddress?_eq_none fits.program,
        badKeypair?_of_fits fits, tooLarge?_of_fits fits]
  rcases h'.of_cons with ⟨abort, rfl, rfl⟩ | ⟨history, rfl, h''⟩
  · refine .inl (of_error (fun clean => ?_) ?_)
    · exact clean.confirm plan.airdrop abort (by simp)
    · simp [Hazard.first?, Hazard.order, Hazard.setback?, badAddress?_eq_none fits.program,
        badKeypair?_of_fits fits, tooLarge?_of_fits fits]
  exact .inr ⟨history, rfl, h''⟩

def paid (config : Config) (plan : Plan) : List Event :=
  ⟨.handshake, .ok plan.version⟩ :: ⟨.fee, .ok plan.fee⟩ ::
    (if config.keypair.isNone then plan.funding else []).map Leg.event

theorem events_eq_paid_append (config : Config) (plan : Plan) :
    plan.events config = paid config plan ++ (plan.submission config).map Leg.event := by
  unfold Plan.events paid
  cases config.keypair <;> rfl

/-- No hazard has done anything before the calls for the transaction. -/
theorem first?_paid (fits : plan.Fits config around) (blockhash : Call.blockhash.Outcome)
    (rest : List Event) :
    Hazard.first? config around (paid config plan ++ ⟨.blockhash, blockhash⟩ :: rest) =
      Hazard.first? config around (⟨.blockhash, blockhash⟩ :: rest) := by
  unfold Hazard.first?
  congr 1
  funext hazard
  -- A wait is looked for in two neighbouring calls, and none of these pairs ends with a query.
  cases hkeypair : config.keypair <;> cases hazard <;>
    simp [Hazard.setback?, paid, Plan.funding, tooLarge?_of_fits fits, hkeypair]

theorem clean_events (fits : plan.Fits config around) :
    Clean config around (plan.events config) := by
  rw [events_eq_paid_append]
  -- Two of the facts differ with the kind of payer; the others are read off the plan's calls.
  refine ⟨⟨plan.program, fits.program⟩, ⟨plan.version, ?_⟩,
    ⟨plan.fee, ?_, Nat.not_le.1 fits.small⟩, ?_, ⟨plan.blockhash, ?_⟩,
    ⟨plan.transaction, plan.signature, ?_⟩, ?_⟩
  case refine_3 =>
    cases hkeypair : config.keypair with
    | none =>
      refine ⟨plan.payer.publicKey, plan.lamports, plan.airdrop, ?_⟩
      simp [paid, Plan.funding, hkeypair]
    | some path => exact ⟨plan.payer, fits.load hkeypair⟩
  case refine_6 =>
    cases hkeypair : config.keypair <;> simp [paid, Plan.funding, Plan.submission, hkeypair]
  all_goals simp [paid, Plan.submission]

/-- The transaction of a plan fails for one of three hazards, or the plan is whole. -/
theorem of_submission (fits : plan.Fits config around)
    (h : Along (.ok (plan.receipt config)) (plan.submission config) history result false) :
    Verdict config around (paid config plan ++ history) result := by
  rcases h.of_cons with ⟨abort, rfl, rfl⟩ | ⟨history, rfl, h'⟩
  · refine of_error (fun clean => ?_) ?_
    · have hblockhash := clean.blockhash
      cases hkeypair : config.keypair <;> simp [paid, Plan.funding, hkeypair] at hblockhash
    · refine (first?_paid fits _ _).trans ?_
      simp [Hazard.first?, Hazard.order, Hazard.setback?, badAddress?_eq_none fits.program,
        badKeypair?_of_fits fits]
  rcases h'.of_cons with ⟨abort, rfl, rfl⟩ | ⟨history, rfl, h''⟩
  · refine of_error (fun clean => ?_) ?_
    · have hsend := clean.send
      cases hkeypair : config.keypair <;> simp [paid, Plan.funding, hkeypair] at hsend
    · refine (first?_paid fits _ _).trans ?_
      simp [Hazard.first?, Hazard.order, Hazard.setback?, badAddress?_eq_none fits.program,
        badKeypair?_of_fits fits]
  rcases h''.of_cons with ⟨abort, rfl, rfl⟩ | ⟨history, rfl, h'''⟩
  · refine of_error (fun clean => ?_) ?_
    · exact clean.confirm plan.signature abort (by simp)
    · refine (first?_paid fits _ _).trans ?_
      simp [Hazard.first?, Hazard.order, Hazard.setback?, badAddress?_eq_none fits.program,
        badKeypair?_of_fits fits]
  obtain ⟨rfl, rfl⟩ := h'''.of_nil
  refine of_ok ?_ ?_
  · have hclean := clean_events fits
    rwa [events_eq_paid_append] at hclean
  · refine (first?_paid fits _ _).trans ?_
    simp [Hazard.first?, Hazard.order, Hazard.setback?, badAddress?_eq_none fits.program,
      badKeypair?_of_fits fits]

/-- A run without an interrupt comes to its verdict, whatever is planned for it. -/
theorem of_along {it : Itinerary} (hit : Itinerary.Planned config around it)
    (h : Along it.result it.legs history result false) : Verdict config around history result := by
  cases hit with
  | badAddress fault haddress =>
    obtain ⟨rfl, rfl⟩ := h.of_nil
    refine of_error (fun clean => ?_) ?_
    · obtain ⟨program, hprogram⟩ := clean.address
      rw [haddress] at hprogram
      cases hprogram
    · simp [Hazard.first?, Hazard.order, Hazard.setback?, Hazard.badAddress?, haddress]
  | tooLarge program version fee haddress hlarge =>
    have haddress' := badAddress?_eq_none haddress
    -- No call follows the queries.
    rw [← List.append_nil (Plan.queries config version fee)] at h
    rcases or_queries haddress' h with hverdict | ⟨rest, rfl, h'⟩
    · exact hverdict
    obtain ⟨rfl, rfl⟩ := h'.of_nil
    refine of_error (fun clean => ?_) ?_
    · obtain ⟨fee', hmem, hsmall⟩ := clean.fee
      obtain rfl : fee' = fee := by simpa using hmem
      exact Nat.not_lt.2 hlarge hsmall
    · have hlarge' : Hazard.tooLarge? config fee = _ := if_pos hlarge
      simp [Hazard.first?, Hazard.order, Hazard.setback?, haddress', hlarge']
  | badKeypair program version fee path fault haddress hsmall hkeypair hload =>
    have haddress' := badAddress?_eq_none haddress
    rw [← List.append_nil (Plan.queries config version fee)] at h
    rcases or_queries haddress' h with hverdict | ⟨rest, rfl, h'⟩
    · exact hverdict
    obtain ⟨rfl, rfl⟩ := h'.of_nil
    refine of_error (fun clean => ?_) ?_
    · have hpayer := clean.payer
      simp [hkeypair, hload] at hpayer
    · have hsmall' : Hazard.tooLarge? config fee = none := if_neg (Nat.not_le.2 hsmall)
      simp [Hazard.first?, Hazard.order, Hazard.setback?, Hazard.badKeypair?, haddress', hkeypair,
        hload, hsmall']
  | whole plan fits =>
    unfold Plan.legs at h
    rw [List.append_assoc] at h
    rcases or_queries (badAddress?_eq_none fits.program) h with hverdict | ⟨rest, rfl, h'⟩
    · exact hverdict
    cases hkeypair : config.keypair with
    | none =>
      simp only [hkeypair, Option.isNone_none, if_true] at h'
      rcases or_funding fits hkeypair h' with hverdict | ⟨rest, rfl, h''⟩
      · exact hverdict
      have hverdict := of_submission fits h''
      simpa [paid, hkeypair] using hverdict
    | some path =>
      simp only [hkeypair, Option.isNone_some] at h'
      have hverdict := of_submission fits h'
      simpa [paid, hkeypair] using hverdict

end Verdict

namespace Probe

/-- A probe without an interrupt succeeds just if it is clean, and then shows the data of its plan.
Otherwise it fails with what the first hazard has done, in the order in which a probe meets them. -/
theorem run_verdict {σ : Type} (config : Config) (around : Surroundings) (ledger : Ledger σ)
    (state : σ) (flag : Bool) (h : (run config around ledger state flag).flag = false) :
    let p := run config around ledger state flag
    ((∃ receipt, p.result = .ok receipt) ↔ Clean config around p.history) ∧
    (∀ receipt, p.result = .ok receipt → ∃ plan : Plan, plan.Fits config around ∧
      p.history = plan.events config ∧ receipt = plan.receipt config) ∧
    ∀ abort, p.result = .error abort ↔ Hazard.first? config around p.history = some abort := by
  intro p
  obtain ⟨it, hit, along⟩ := exists_along_run config around ledger state flag
  rw [h] at along
  have hverdict : Verdict config around p.history p.result := .of_along hit along
  exact ⟨hverdict.ok_iff, fun receipt => exists_plan_of_ok, hverdict.error_iff⟩

/-- A node that gives an airdrop and has no answers from then on. -/
def dying : LedgerScript where
  confirm := [{ answer := (), fault := some (.custom "no answer") }]
  blockhash := { answer := .replicate 32 9, fault := some (.custom "no answer") }

section Dying

variable {config : Config} (around : Surroundings) {program : PublicKey}
  (haddress : PublicKey.ofBase58 config.address = .ok program)

include haddress

theorem first?_dying_of_tooLarge (hlarge : Airdrop.size? 5000 config.multiplier = none) :
    let p := run config around dying.ledger dying.confirm false
    p.flag = false ∧ Hazard.first? config around p.history =
      some (.failed (.airdropTooLarge 5000 config.multiplier)) := by
  have hhazard : Hazard.tooLarge? config 5000 = _ := if_pos (Airdrop.size?_eq_none_iff.1 hlarge)
  simp [run, course, enter, target, haddress, query, ask, fail, sizeAirdrop, hlarge, Dialogue.play,
    LedgerScript.ledger, dying, Prepared.outcome, Played.after, Played.history, List.filterMap,
    Mark.event?, Hazard.first?, Hazard.order, Hazard.setback?, Hazard.badAddress?, hhazard]

theorem first?_dying_of_no_keypair (hkeypair : config.keypair = none) {lamports : UInt64}
    (hsize : Airdrop.size? 5000 config.multiplier = some lamports) :
    let p := run config around dying.ledger dying.confirm false
    p.flag = false ∧ Hazard.first? config around p.history = some (.failed
      (.unconfirmed (.airdrop lamports) (.replicate 64 7) (.custom "no answer"))) := by
  have hhazard : Hazard.tooLarge? config 5000 = none := by
    refine if_neg fun hlarge => ?_
    rw [Airdrop.size?_eq_none_iff.2 hlarge] at hsize
    cases hsize
  simp [run, course, enter, target, haddress, query, ask, sizeAirdrop, hsize, payAndCall, hkeypair,
    giveAirdrop, hand, await, Dialogue.play, LedgerScript.ledger, dying, Prepared.outcome,
    Abort.map, Played.after, Played.history, List.filterMap, Mark.event?, Hazard.first?,
    Hazard.order, Hazard.setback?, Hazard.badAddress?, Hazard.badKeypair?, hhazard]

end Dying

/-- Two runs against a node that has no answers after an airdrop.  A size that there is not is
reported before a payer's file that cannot be read, and the wait for the airdrop before the block
hash that would not come. -/
theorem run_verdict_dying :
    let around : Surroundings := ⟨fun _ => .error .notFound, .ofSeed (.replicate 32 0)⟩
    let config : Config := { address := "11111111111111111111111111111111" }
    let large : Config := { config with multiplier := 9223372036854775808, keypair := some [] }
    let result (config : Config) := (run config around dying.ledger dying.confirm false).result
    result large = .error (.failed (.airdropTooLarge 5000 9223372036854775808)) ∧
      result config = .error (.failed
        (.unconfirmed (.airdrop 500000) (.replicate 64 7) (.custom "no answer"))) := by
  intro around config large result
  have haddress : PublicKey.ofBase58 config.address = .ok (.replicate 32 0) := by decide +kernel
  have hlarge : Airdrop.size? 5000 large.multiplier = none := by decide
  have hsize : Airdrop.size? 5000 config.multiplier = some 500000 := by decide
  have haddress' : PublicKey.ofBase58 large.address = .ok (.replicate 32 0) := haddress
  obtain ⟨hdown, hfirst⟩ := first?_dying_of_tooLarge around haddress' hlarge
  obtain ⟨hdown', hfirst'⟩ := first?_dying_of_no_keypair around haddress rfl hsize
  exact ⟨((run_verdict large around _ _ false hdown).2.2 _).2 hfirst,
    ((run_verdict config around _ _ false hdown').2.2 _).2 hfirst'⟩

end Probe

end ClusterProbe
