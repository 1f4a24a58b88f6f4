import ClusterProbe.Ledger.Scripted
import ClusterProbe.Proofs.KeypairFile
import ClusterProbe.Proofs.Probe.Plan

/-!
# The payer from a file

The transaction of a probe with a configured payer is paid for and signed with the key pair in the
file.  Where the file holds none, the probe ends after its queries, and nothing is spent.
-/

namespace ClusterProbe

variable {config : Config} {around : Surroundings} {path : Path}

/-- Without an interrupt, a run with nothing but the queries before it has its result once the fee
is known. -/
theorem Along.of_queries {final result : Probe.Result} {version : String} {fee fee' : UInt64}
    {history : List Event}
    (h : Along final (Plan.queries config version fee) history result false)
    (hfee : ⟨.fee, .ok fee'⟩ ∈ history) :
    fee' = fee ∧ history = [⟨.handshake, .ok version⟩, ⟨.fee, .ok fee⟩] ∧ result = final := by
  rcases h.of_cons with ⟨abort, rfl, -⟩ | ⟨history, rfl, h'⟩
  · simp at hfee
  rcases h'.of_cons with ⟨abort, rfl, -⟩ | ⟨history, rfl, h''⟩
  · simp at hfee
  obtain ⟨rfl, rfl⟩ := h''.of_nil
  exact ⟨by simpa using hfee, rfl, rfl⟩

/-- A transaction that is handed in is the one of a plan. -/
theorem Itinerary.Planned.of_send {it : Itinerary} {transaction : Transaction}
    (h : Planned config around it) (hsend : .send transaction ∈ it.legs.map (·.call)) :
    ∃ plan : Plan, plan.Fits config around ∧ transaction = plan.transaction := by
  cases h with
  | badAddress fault _ => simp at hsend
  | tooLarge program version fee _ _ => simp [Plan.queries] at hsend
  | badKeypair program version fee path fault _ _ _ _ => simp [Plan.queries] at hsend
  | whole plan fits =>
    refine ⟨plan, fits, ?_⟩
    cases hkeypair : config.keypair <;>
      simpa [Plan.legs, Plan.queries, Plan.funding, Plan.submission, hkeypair] using hsend

namespace Probe

variable {σ : Type} {ledger : Ledger σ} {state : σ} {flag : Bool}

/-- Every transaction that a run hands in has signatures that belong to their keys and to its
message, whatever the payer and whatever the node answers. -/
theorem verified_of_sent {transaction : Transaction}
    (hsend : .send transaction ∈ (run config around ledger state flag).calls) :
    transaction.verified = true := by
  obtain ⟨it, hit, along⟩ := exists_along_run config around ledger state flag
  obtain ⟨plan, fits, rfl⟩ := hit.of_send (along.calls_prefix.subset hsend)
  exact Transaction.verified_of_signedBy fits.transaction

/-- With a file that holds no key pair, a run makes no more than its queries, and reports the file
once the airdrop has a size. -/
theorem run_no_payer {fault : KeypairFile.Fault} (hkeypair : config.keypair = some path)
    (hload : KeypairFile.load around.readFile path = .error fault) :
    let p := run config around ledger state flag
    p.calls <+: [.handshake, .fee] ∧
      (p.flag = false → ∀ fee : UInt64, ⟨.fee, .ok fee⟩ ∈ p.history →
        fee.toNat * config.multiplier.toNat < UInt64.size →
        p.result = .error (.failed (.badKeypair path fault.message)) ∧
          p.calls = [.handshake, .fee]) := by
  intro p
  obtain ⟨it, hit, along⟩ : ∃ it, Itinerary.Planned config around it ∧
      Along it.result it.legs p.history p.result p.flag :=
    exists_along_run config around ledger state flag
  have hcalls : p.calls <+: it.legs.map (·.call) := along.calls_prefix
  have hearlier {result : Result} {version : String} {fee₀ fee : UInt64} (hdown : p.flag = false)
      (halong : Along result (Plan.queries config version fee₀) p.history p.result p.flag)
      (hfee : ⟨.fee, .ok fee⟩ ∈ p.history) :
      fee = fee₀ ∧ p.calls = [.handshake, .fee] ∧ p.result = result := by
    rw [hdown] at halong
    obtain ⟨heq, hhistory, hresult⟩ := halong.of_queries hfee
    exact ⟨heq, congrArg (List.map Sigma.fst) hhistory, hresult⟩
  cases hit with
  | badAddress fault _ =>
    refine ⟨hcalls.trans List.nil_prefix, fun _ fee hfee => ?_⟩
    have hmem := hcalls.subset (List.mem_map_of_mem hfee)
    cases hmem
  | tooLarge program version fee₀ _ hlarge =>
    refine ⟨hcalls, fun hdown fee hfee hsmall => ?_⟩
    obtain ⟨rfl, -, -⟩ := hearlier hdown along hfee
    exact absurd hlarge (Nat.not_le.2 hsmall)
  | badKeypair program version fee₀ path' fault' _ _ hkeypair' hload' =>
    obtain rfl := Option.some.inj (hkeypair.symm.trans hkeypair')
    obtain rfl := Except.error.inj (hload.symm.trans hload')
    refine ⟨hcalls, fun hdown fee hfee _ => ?_⟩
    obtain ⟨-, hmade, hresult⟩ := hearlier hdown along hfee
    exact ⟨hresult, hmade⟩
  | whole plan fits =>
    rw [fits.load hkeypair] at hload
    cases hload

/-- A payer is loaded from a file just where the file can be read and its content is one list of 64
octets in decimal, a seed and the public key that follows from it, with nothing but blanks around
the tokens.  That key pair is then the payer of a transaction that is sent, and what it is signed
with.  From any other file no payer is loaded: no run calls for more than the version and the fee, and
one without an interrupt, to which the fee and the size of the airdrop are known, makes just these
two calls and ends with the path of the file as what is wrong. -/
theorem run_payer_file (config : Config) (path : Path) (around : Surroundings) (ledger : Ledger σ)
    (state : σ) (flag : Bool) :
    let loaded := KeypairFile.load around.readFile path
    let p := run { config with keypair := some path } around ledger state flag
    (∀ payer : Keypair, loaded = .ok payer ↔ ∃ content, around.readFile path = .ok content ∧
      KeypairFile.Lists (payer.seed.toList ++ (Ed25519.publicKey payer.seed).toList) content) ∧
    (∀ payer, loaded = .ok payer → ∀ transaction outcome,
      ⟨.send transaction, outcome⟩ ∈ p.history →
        transaction.message.accountKeys.head? = some payer.publicKey ∧
        transaction.signatures = [payer.sign transaction.message.octets]) ∧
    ∀ fault, loaded = .error fault → p.calls <+: [.handshake, .fee] ∧
      (p.flag = false → ∀ fee : UInt64, ⟨.fee, .ok fee⟩ ∈ p.history →
        fee.toNat * config.multiplier.toNat < UInt64.size →
        p.result = .error (.failed (.badKeypair path fault.message)) ∧
          p.calls = [.handshake, .fee]) := by
  intro loaded p
  refine ⟨fun payer => ?_, fun payer hload transaction outcome hsend => ?_, fun fault hload => ?_⟩
  · rw [← payer.publicKey_eq]
    exact KeypairFile.load_eq_ok_iff
  · obtain ⟨it, hit, along⟩ := exists_along_run { config with keypair := some path } around ledger
      state flag
    have hcall := along.calls_prefix.subset (List.mem_map_of_mem hsend)
    obtain ⟨plan, fits, rfl⟩ := hit.of_send hcall
    obtain rfl := Except.ok.inj (hload.symm.trans (fits.load rfl))
    exact ⟨fits.firstKey, fits.signatures⟩
  · exact run_no_payer rfl hload

/-- With a file that holds no key pair, a script without faults is followed up to the fee. -/
theorem followed_of_no_payer {program : PublicKey} {lamports : UInt64} {fault : KeypairFile.Fault}
    (haddress : PublicKey.ofBase58 config.address = .ok program)
    (hsize : Airdrop.size? 5000 config.multiplier = some lamports)
    (hkeypair : config.keypair = some path)
    (hload : KeypairFile.load around.readFile path = .error fault) :
    let p := run config around (LedgerScript.ledger {}) [] false
    p.flag = false ∧ ⟨.fee, .ok 5000⟩ ∈ p.history := by
  simp [run, course, enter, target, haddress, query, ask, sizeAirdrop, hsize, payAndCall, hkeypair,
    hload, fail, Dialogue.play, LedgerScript.ledger, Prepared.outcome, Played.after,
    Played.history, List.filterMap, Mark.event?]

/-- The list in the file has one octet, which is too short for a key pair. -/
theorem run_payer_file_short :
    let content := ['[', '7', ']'].map Json.octet
    let around : Surroundings := ⟨fun _ => .ok content, .ofSeed (.replicate 32 0)⟩
    let config : Config := { address := "11111111111111111111111111111111", keypair := some [] }
    let p := run config around (LedgerScript.ledger {}) [] false
    (p.flag = false ∧ ⟨.fee, .ok 5000⟩ ∈ p.history) ∧
      p.result = .error (.failed (.badKeypair [] Keypair.Fault.tooShort.message)) ∧
      p.calls = [.handshake, .fee] := by
  intro content around config p
  have haddress : PublicKey.ofBase58 config.address = .ok (.replicate 32 0) := by decide +kernel
  have hsize : Airdrop.size? 5000 config.multiplier = some 500000 := by decide
  have hload : KeypairFile.load around.readFile [] = .error (.keypair .tooShort) := rfl
  have hquoted : p.flag = false ∧ ⟨.fee, .ok 5000⟩ ∈ p.history :=
    followed_of_no_payer haddress hsize rfl hload
  obtain ⟨-, -, hbad⟩ := run_payer_file config [] around (LedgerScript.ledger {}) [] false
  exact ⟨hquoted, (hbad _ hload).2 hquoted.1 5000 hquoted.2 (by decide)⟩

end Probe

end ClusterProbe
