import ClusterProbe.Proofs.Address
import ClusterProbe.Proofs.Decimal
import ClusterProbe.Proofs.Probe.Sources
import ClusterProbe.Proofs.Rpc.Run

/-!
# Reports

A report shows what has happened: a run that succeeded with the payer, the airdrop and the signature
of the transaction that was sent, and one that failed with all that it comes from.
-/

namespace ClusterProbe

namespace Report

/-! ## Causes -/

/-- All lines of a text but the first are indented. -/
theorem toList_indented (indent text : String) :
    (indented indent text).toList =
      ('\n' :: indent.toList).intercalate (text.toList.splitOn '\n') := by
  rw [indented, String.toList_ofList]
  induction text.toList with
  | nil => rfl
  | cons c cs ih =>
    rw [List.splitOn] at ih ⊢
    -- A line break opens a line of its own, and any other character goes to the first line.
    obtain ⟨line, lines, hlines⟩ := List.exists_cons_of_ne_nil (List.splitOnP_ne_nil (· == '\n') cs)
    rw [List.flatMap_cons, List.splitOnP_cons_eq_if_modifyHead, ih, hlines]
    by_cases hc : c = '\n'
    · rw [if_pos hc, if_pos (by simp [hc]), List.intercalate_cons_cons, List.nil_append]
    · rw [if_neg hc, if_neg (by simp [hc]), List.modifyHead_cons]
      cases lines with
      | nil => simp
      | cons line' lines => simp [List.intercalate_cons_cons]

/-- What stands before a cause: its number, if it has one. -/
def label : Option Nat → List Char
  | none => []
  | some n => (Decimal.text n).toList ++ [':', ' ']

/-- A block of lines shows a text: the first line of it behind a margin and a label, and each other
one behind an indent. -/
def Shows (number : Option Nat) (text block : String) : Prop :=
  ∃ margin indent : Nat, block.toList = List.replicate margin ' ' ++ label number ++
    ('\n' :: List.replicate indent ' ').intercalate (text.toList.splitOn '\n') ++ ['\n']

/-- Causes are shown one below the other, numbered if there are several. -/
def Lists (chain blocks : List String) : Prop :=
  List.Forall₂ (fun (cause, n) block =>
    Shows (if chain.length = 1 then none else some n) cause block) chain.zipIdx blocks

theorem exists_lists {chain : List String} (h : chain ≠ []) :
    ∃ blocks, causes chain = String.join blocks ∧ Lists chain blocks := by
  cases chain with
  | nil => exact absurd rfl h
  | cons cause rest =>
    cases rest with
    | nil =>
      refine ⟨["    " ++ indented "    " cause ++ "\n"], ?_, .cons ⟨4, 4, ?_⟩ .nil⟩
      · simp [causes, String.join]
      · simp [label, toList_indented]
    | cons cause' rest =>
      refine ⟨_, rfl, ?_⟩
      rw [Lists, List.forall₂_map_right_iff, List.forall₂_same]
      rintro ⟨text, n⟩ -
      -- Numbers are set flush right in five columns, and the other lines below the text.
      refine ⟨5 - (Decimal.digits n).length, 7, ?_⟩
      simp [label, column, toList_indented, Decimal.text]

/-! ## Airdrops -/

def airdropped (lamports : UInt64) (airdrop : Signature) : String :=
  "airdropped " ++ Decimal.text lamports.toNat ++ " lamports (" ++ airdrop.toBase58 ++ ")"

def supplied : String := "supplied, no airdrop"

theorem toList_airdropped (lamports : UInt64) (airdrop : Signature) :
    (airdropped lamports airdrop).toList = "airdropped ".toList ++
      ((Decimal.text lamports.toNat).toList ++
        ' ' :: ("lamports (".toList ++ airdrop.toBase58.toList ++ [')'])) := by
  have hairdropped : airdropped lamports airdrop =
      "airdropped " ++ Decimal.text lamports.toNat ++ " lamports (" ++ airdrop.toBase58 ++ ")" := rfl
  simp [hairdropped]

/-- The text tells which airdrop it was. -/
theorem airdropped_inj {lamports lamports' : UInt64} {airdrop airdrop' : Signature} :
    airdropped lamports airdrop = airdropped lamports' airdrop' ↔
      lamports = lamports' ∧ airdrop = airdrop' := by
  constructor
  · intro h
    rw [← String.toList_inj, toList_airdropped, toList_airdropped, List.append_cancel_left_eq] at h
    obtain ⟨hlamports, hairdrop⟩ := Decimal.text_append_inj.1 h
    rw [List.append_cancel_right_eq, List.append_cancel_left_eq, String.toList_inj] at hairdrop
    exact ⟨hlamports, Octets.toBase58_inj.1 hairdrop⟩
  · rintro ⟨rfl, rfl⟩
    rfl

theorem airdropped_ne_supplied (lamports : UInt64) (airdrop : Signature) :
    airdropped lamports airdrop ≠ supplied := by
  intro h
  have hhead := congrArg (fun text => text.toList.head?) h
  simp [toList_airdropped, supplied] at hhead

/-! ## Runs -/

/-- The report of a run shows what has happened in it. -/
structure Truthful {σ : Type} (config : Config) (p : Played σ Probe.Result) (report : Report) :
    Prop where
  ok : ∀ receipt, p.result = .ok receipt →
    report.exitCode = 0 ∧ report.stderr = "" ∧
    ∃ payer transaction signature funding,
      (∀ sent, .send sent ∈ p.calls ↔ sent = transaction) ∧
      transaction.message.accountKeys.head? = some payer ∧
      transaction.signatures = [signature] ∧
      (∀ lamports airdrop, funding = airdropped lamports airdrop ↔
        ⟨.airdrop payer lamports, .ok airdrop⟩ ∈ p.history) ∧
      (funding = supplied ↔
        ∀ lamports airdrop, ⟨.airdrop payer lamports, .ok airdrop⟩ ∉ p.history) ∧
      report.stdout =
        "[RUN] Probing " ++ config.address ++ " via " ++ config.endpoint ++ "\n" ++
        "[FUND] payer " ++ payer.toBase58 ++ " " ++ funding ++ "\n" ++
        "[DONE] probe tx " ++ signature.toBase58 ++ " landed on " ++ config.address ++ "\n" ++
        "success!\n"
  failed : ∀ fault, p.result = .error (.failed fault) →
    report.exitCode = 1 ∧
    report.stdout = "[RUN] Probing " ++ config.address ++ " via " ++ config.endpoint ++ "\n" ∧
    (∀ source, (Link.probe fault).source? = some source → source.Happened config p.history) ∧
    ∃ chain blocks, Link.Chain (.probe fault) chain ∧ Lists chain blocks ∧
      report.stderr = "Error: airdrop-and-submit probe failed\n\nCaused by:\n" ++ String.join blocks

end Report

namespace Plan

variable (plan : Plan) (config : Config)

theorem send_mem_events_iff {transaction : Transaction} :
    .send transaction ∈ (plan.events config).map (·.1) ↔ transaction = plan.transaction := by
  unfold events
  cases config.keypair <;> simp

theorem airdrop_mem_events_iff {account : PublicKey} {lamports : UInt64} {airdrop : Signature} :
    ⟨.airdrop account lamports, .ok airdrop⟩ ∈ plan.events config ↔
      config.keypair = none ∧ account = plan.payer.publicKey ∧ lamports = plan.lamports ∧
        airdrop = plan.airdrop := by
  unfold events
  cases config.keypair <;> simp [and_assoc]

/-- The airdrop of a plan is told if there is one, and else that there is none. -/
theorem exists_funding :
    ∃ told, Report.funding (plan.receipt config) =
        "[FUND] payer " ++ plan.payer.publicKey.toBase58 ++ " " ++ told ++ "\n" ∧
      (∀ lamports airdrop, told = Report.airdropped lamports airdrop ↔
        ⟨.airdrop plan.payer.publicKey lamports, .ok airdrop⟩ ∈ plan.events config) ∧
      (told = Report.supplied ↔ ∀ lamports airdrop,
        ⟨.airdrop plan.payer.publicKey lamports, .ok airdrop⟩ ∉ plan.events config) := by
  have hmem (lamports : UInt64) (airdrop : Signature) :
      ⟨.airdrop plan.payer.publicKey lamports, .ok airdrop⟩ ∈ plan.events config ↔
        config.keypair = none ∧ lamports = plan.lamports ∧ airdrop = plan.airdrop := by
    rw [plan.airdrop_mem_events_iff config]
    simp
  cases hkeypair : config.keypair with
  | none =>
    refine ⟨Report.airdropped plan.lamports plan.airdrop, ?_, fun lamports airdrop => ?_, ?_⟩
    · have hbegin : " airdropped " = " " ++ "airdropped " := rfl
      have hend : ")\n" = ")" ++ "\n" := rfl
      simp only [Report.funding, Report.airdropped, receipt, hkeypair, Option.isNone_none, if_true,
        hbegin, hend, String.append_assoc]
    · rw [Report.airdropped_inj, hmem]
      simp [hkeypair, eq_comm]
    · refine iff_of_false (Report.airdropped_ne_supplied _ _) fun h => ?_
      exact h plan.lamports plan.airdrop ((hmem _ _).2 ⟨hkeypair, rfl, rfl⟩)
  | some path =>
    -- The signature of an airdrop in such a plan belongs to no call.
    refine ⟨Report.supplied, ?_, fun lamports airdrop => ?_, ?_⟩
    · have hline : " supplied, no airdrop\n" = " " ++ Report.supplied ++ "\n" := rfl
      simp only [Report.funding, receipt, hkeypair, Option.isNone_some, Bool.false_eq_true, if_false,
        hline, String.append_assoc]
    · refine iff_of_false (Report.airdropped_ne_supplied _ _).symm fun h => ?_
      have hnone := ((hmem _ _).1 h).1
      rw [hkeypair] at hnone
      cases hnone
    · refine iff_of_true rfl fun lamports airdrop h => ?_
      have hnone := ((hmem _ _).1 h).1
      rw [hkeypair] at hnone
      cases hnone

end Plan

namespace Program

/-- The report of a command, with interrupts that arrive at the given moments besides those that
come with the replies. -/
def interruptedReport (name : String) (arguments : List CommandLine.Argument)
    (listens : String × Nat → Bool) (around : Surroundings) (replies : List Rpc.Reply)
    (moments : Interrupts) : Report :=
  match CommandLine.read arguments with
  | .error fault => .ofFault name fault
  | .ok config =>
    .ofResult config (interruptedProbe config listens around replies false moments).result

/-- The program's own report is the one without such interrupts. -/
theorem interruptedReport_none (name : String) (arguments : List CommandLine.Argument)
    (listens : String × Nat → Bool) (around : Surroundings) (replies : List Rpc.Reply) :
    interruptedReport name arguments listens around replies .none =
      (run name arguments listens around replies).report := by
  unfold interruptedReport run
  cases CommandLine.read arguments with
  | error fault => rfl
  | ok config =>
    obtain ⟨-, hresult, -, -⟩ := interruptedProbe_none config listens around replies false
    simp only [hresult]

/-- A probe that succeeds is a whole plan, and its transaction is taken under the one signature in
it. -/
theorem exists_plan_interruptedProbe {config : Config} {listens : String × Nat → Bool}
    {around : Surroundings} {replies : List Rpc.Reply} {flag : Bool} {moments : Interrupts}
    {receipt : Receipt}
    (h : (interruptedProbe config listens around replies flag moments).result = .ok receipt) :
    ∃ plan : Plan, plan.Fits config around ∧
      (interruptedProbe config listens around replies flag moments).history = plan.events config ∧
      receipt = plan.receipt config ∧ plan.transaction.signatures = [plan.signature] := by
  obtain ⟨pieces, -, hpieces⟩ := exists_pieces_of_adds config listens around replies flag moments
    (fun event added => Rpc.Leaves config.confirmation.level added event)
    (client config listens).adds_perform
  obtain ⟨plan, fits, hhistory, hreceipt⟩ := Probe.exists_plan_of_ok h
  have hlast := plan.submitted_sublist_events config
  rw [← hhistory] at hlast
  -- The client goes on only under the signature that the transaction has.
  obtain ⟨hown, -⟩ := Rpc.Leaves.exists_submission hpieces hlast
  refine ⟨plan, fits, hhistory, hreceipt, ?_⟩
  rw [← hown, Transaction.signature?, fits.signatures]
  rfl

/-- Whatever a node does and whenever an interrupt arrives, the report of a command line that gives
a configuration shows what has happened. -/
theorem truthful_interruptedReport (name : String) {arguments : List CommandLine.Argument}
    {config : Config} (h : CommandLine.read arguments = .ok config)
    (listens : String × Nat → Bool) (around : Surroundings) (replies : List Rpc.Reply)
    (moments : Interrupts) :
    Report.Truthful config (interruptedProbe config listens around replies false moments)
      (interruptedReport name arguments listens around replies moments) := by
  have hreport : interruptedReport name arguments listens around replies moments =
      .ofResult config (interruptedProbe config listens around replies false moments).result := by
    simp only [interruptedReport, h]
  rw [hreport]
  refine ⟨fun receipt hreceipt => ?_, fun fault hfault => ?_⟩
  · obtain ⟨plan, fits, hhistory, rfl, hsignatures⟩ := exists_plan_interruptedProbe hreceipt
    obtain ⟨told, hfunding, htold⟩ := plan.exists_funding config
    rw [hreceipt, Played.calls, hhistory]
    refine ⟨rfl, rfl, plan.payer.publicKey, plan.transaction, plan.signature, told,
      fun sent => plan.send_mem_events_iff config, fits.firstKey, hsignatures, htold.1, htold.2, ?_⟩
    -- The address that was given is the text of the program that was called.
    have haddress : plan.program.toBase58 = config.address :=
      Octets.toBase58_of_octets fits.program
    have hstdout : (Report.ofResult config (.ok (plan.receipt config))).stdout =
        "[RUN] Probing " ++ config.address ++ " via " ++ config.endpoint ++ "\n" ++
        (Report.funding (plan.receipt config) ++ "[DONE] probe tx " ++ plan.signature.toBase58 ++
          " landed on " ++ plan.program.toBase58 ++ "\nsuccess!\n") := rfl
    have hend : "\nsuccess!\n" = "\n" ++ "success!\n" := rfl
    simp only [hstdout, hfunding, haddress, hend, String.append_assoc]
  · obtain ⟨blocks, hblocks, hlists⟩ :=
      Report.exists_lists (List.cons_ne_nil fault.message fault.causes)
    have hchain : Link.Chain (.probe fault) (fault.message :: fault.causes) :=
      Link.Chain.probe_iff.2 rfl
    rw [hfault]
    refine ⟨rfl, rfl, fun source => Probe.happened_of_failed hfault, _, blocks, hchain, hlists, ?_⟩
    rw [← hblocks]
    rfl

/-- The replies of a node that takes an airdrop and then the transaction, and shows both as
landed. -/
def landing : List Rpc.Reply :=
  let inContext (value : Json) : Json :=
    .object [("context", .object [("slot", .ofNat 1)]), ("value", value)]
  let landed : Json :=
    inContext (.array [.object [("slot", .ofNat 1), ("status", .object [("Ok", .null)])]])
  let blockhash : Json := .object [("blockhash", .string "11111111111111111111111111111111"),
    ("lastValidBlockHeight", .ofNat 1)]
  let own : Rpc.Request → Json
    | .sendTransaction transaction .. =>
      .string (transaction.signature?.getD (.replicate 64 0)).toBase58
    | _ => .null
  repliesOf [.string "1111111111111111111111111111111111111111111111111111111111111111", landed,
    inContext blockhash] ++
  [{ body := fun request => Rpc.Exchange.bodyOf (.object [("result", own request)]) },
    { body := fun _ => Rpc.Exchange.bodyOf (.object [("result", landed)]) }]

/-- A run in which the transaction lands and the status of its first signature is found, and one
against a node that does not listen. -/
theorem truthful_interruptedReport_landing :
    let around : Surroundings := ⟨fun _ => .error .notFound, .ofSeed (.replicate 32 0)⟩
    let report (listens : Bool) := interruptedReport "probe" [Utf8.encode "--url=http://[::1]"]
      (fun _ => listens) around landing .none
    let p (listens : Bool) := interruptedProbe { endpoint := "http://[::1]" } (fun _ => listens)
      around landing false .none
    CommandLine.read [Utf8.encode "--url=http://[::1]"] = .ok { endpoint := "http://[::1]" } ∧
    (report true).exitCode = 0 ∧
    Report.Truthful { endpoint := "http://[::1]" } (p true) (report true) ∧
    (report false).exitCode = 1 ∧
    Report.Truthful { endpoint := "http://[::1]" } (p false) (report false) := by
  have hread : CommandLine.read [Utf8.encode "--url=http://[::1]"] =
      .ok { endpoint := "http://[::1]" } := by
    decide +kernel
  refine ⟨hread, ?_, truthful_interruptedReport "probe" hread _ _ landing .none,
    ?_, truthful_interruptedReport "probe" hread _ _ landing .none⟩
  · decide +kernel
  · decide +kernel

end Program

end ClusterProbe
