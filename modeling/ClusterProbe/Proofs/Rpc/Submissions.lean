import ClusterProbe.Proofs.Address
import ClusterProbe.Proofs.Probe.Submissions
import ClusterProbe.Proofs.Rpc.Crashes

/-!
# Submissions that are told as rejected

A probe tells an airdrop or a transaction as rejected if the node gave no signature that it can go
on under: not only where the node refused it, but also where it answered with another result.
-/

namespace ClusterProbe

namespace Event

/-- A submission has failed if it was not taken, without a crash. -/
theorem exists_failed_iff {event : Event} {submission : Submission}
    (h : event.1.submission? = some submission) :
    (∃ source, event.2 = .error (.failed source)) ↔
      (∀ signature, ¬ event.taken? = some signature) ∧ ¬ Crashed event.2 := by
  have hfailed (outcome : Except (Abort LedgerFault) Signature) :
      (∃ source, outcome = .error (.failed source)) ↔
        (∀ signature, ¬ outcome = .ok signature) ∧ ¬ Crashed outcome := by
    cases outcome with
    | ok signature => simp
    | error abort => cases abort <;> simp
  obtain ⟨call, outcome⟩ := event
  cases call with
  | airdrop account lamports =>
    simp only [taken?_airdrop]
    exact hfailed outcome
  | send transaction =>
    simp only [taken?_send]
    exact hfailed outcome
  | _ => cases h

end Event

namespace Rpc

/-! ## Exchanges of submissions -/

/-- What a request asks the node to carry out. -/
def Request.submission? : Request → Option Submission
  | .requestAirdrop _ lamports _ => some (.airdrop lamports)
  | .sendTransaction .. => some .transaction
  | _ => none

/-- No exchange asks the node to carry anything out. -/
def Idle (added : List Exchanged) : Prop := ∀ e ∈ added, e.request.submission? = none

namespace Idle

theorem append {before added : List Exchanged} (h : Idle before) (h' : Idle added) :
    Idle (before ++ added) :=
  List.forall_mem_append.2 ⟨h, h'⟩

theorem composes : Composes (·.submission? = none) fun _ added _ => Idle added where
  queries request h := by cases request <;> first | rfl | cases h
  exchange request x url h := by
    intro e he
    rw [List.mem_singleton.1 he]
    exact h
  ok _ _ := nofun
  failed _ _ := nofun
  error _ _ _ _ h := h
  blaming _ _ _ _ h := h
  append _ _ _ _ _ _ h h' := h.append h'

end Idle

/-- The node has taken what it was asked to carry out, under the signature: its result is the text
of the signature, and a transaction goes on under its own one alone. -/
def Exchanged.Takes (e : Exchanged) (signature : Signature) : Prop :=
  e.answer? = some (.string signature.toBase58) ∧
    ∀ transaction encoding level, e.request = .sendTransaction transaction encoding level →
      transaction.signature?.getD (.replicate 64 0) = signature

/-- The exchanges of a call that submits something: the call fails before it, or the last exchange
is the one that asks for it, and decides the outcome. -/
inductive Submits (submission : Submission) (outcome : Except (Abort LedgerFault) Signature) :
    List Exchanged → Prop where
  | unasked (added : List Exchanged) (idle : Idle added)
      (untaken : ∀ signature, outcome ≠ .ok signature) : Submits submission outcome added
  | asked (before : List Exchanged) (e : Exchanged) (idle : Idle before)
      (request : e.request.submission? = some submission)
      (taken : ∀ signature, outcome = .ok signature ↔ e.Takes signature)
      (crashed : Crashed outcome ↔ e.Fatal) : Submits submission outcome (before ++ [e])

namespace Submits

variable {submission : Submission} {outcome : Except (Abort LedgerFault) Signature}
  {before added : List Exchanged}

theorem mapError (h : Submits submission outcome added) (reason : LedgerFault → LedgerFault) :
    Submits submission (outcome.mapError (Abort.map reason)) added := by
  have hcrashed : Crashed (outcome.mapError (Abort.map reason)) ↔ Crashed outcome := by
    cases outcome with
    | ok signature => simp [Except.mapError]
    | error abort => exact crashed_map_iff reason abort
  cases h with
  | unasked added idle untaken =>
    exact .unasked added idle fun signature h => untaken signature (mapError_eq_ok_iff.1 h)
  | asked before e idle request taken crashed =>
    exact .asked before e idle request (fun signature => mapError_eq_ok_iff.trans (taken signature))
      (hcrashed.trans crashed)

theorem after (h : Submits submission outcome added)
    (hbefore : Idle before) : Submits submission outcome (before ++ added) := by
  cases h with
  | unasked added idle untaken =>
    exact .unasked _ (hbefore.append idle) untaken
  | asked before' e idle request taken crashed =>
    rw [← List.append_assoc]
    exact .asked _ e (hbefore.append idle) request taken crashed

/-- The exchange that asks for a submission is the one that decides the outcome. -/
theorem of_mem (h : Submits submission outcome added) {e : Exchanged} (he : e ∈ added)
    {asked : Submission} (hasked : e.request.submission? = some asked) :
    submission = asked ∧ (∀ signature, outcome = .ok signature ↔ e.Takes signature) ∧
      (Crashed outcome ↔ e.Fatal) := by
  cases h with
  | unasked added idle untaken =>
    rw [idle e he] at hasked
    cases hasked
  | asked before last idle request taken crashed =>
    rcases List.mem_append.1 he with he | he
    · rw [idle e he] at hasked
      cases hasked
    · obtain rfl := List.mem_singleton.1 he
      exact ⟨Option.some.inj (request.symm.trans hasked), taken, crashed⟩

/-- What was taken was asked for. -/
theorem exists_of_ok {signature : Signature} (h : Submits submission (.ok signature) added) :
    ∃ e ∈ added, e.request.submission? = some submission := by
  generalize houtcome : (Except.ok signature : Except (Abort LedgerFault) Signature) = outcome at h
  cases h with
  | unasked added idle untaken => exact absurd houtcome.symm (untaken signature)
  | asked before e idle request taken crashed =>
    exact ⟨e, List.mem_append_right _ (List.mem_singleton_self e), request⟩

end Submits

/-- What a call leaves in the log of submissions. -/
def Settles (added : List Exchanged) : Event → Prop
  | ⟨.airdrop _ lamports, outcome⟩ => Submits (.airdrop lamports) outcome added
  | ⟨.send _, outcome⟩ => Submits .transaction outcome added
  | ⟨.handshake, _⟩ => Idle added
  | ⟨.fee, _⟩ => Idle added
  | ⟨.confirm _, _⟩ => Idle added
  | ⟨.blockhash, _⟩ => Idle added

/-! ## Calls that submit something -/

/-- What is made of the text of a signature: it is accepted, or it is a failure. -/
def Accepts (accepted : String → Signature → Prop) (read : String → Exchanging Signature) : Prop :=
  ∀ text, Adds (fun added outcome => added = [] ∧ ¬ Crashed outcome ∧
    ∀ signature, outcome = .ok signature ↔ accepted text signature) (read text)

theorem accepts_airdrop : Accepts (fun text signature => signature.toBase58 = text)
    fun text => given (fun _ => Client.airdropFailure) (Signature.ofBase58 text) := by
  intro text
  refine (Adds.given_outcome _ _).mono ?_
  rintro added outcome ⟨hadded, rfl⟩
  refine ⟨hadded, ?_, fun signature => mapError_eq_ok_iff.trans Signature.ofBase58_eq_ok_iff⟩
  cases Signature.ofBase58 text <;> simp [Except.mapError]

theorem accepts_named (transaction : Transaction) :
    Accepts (fun text signature => signature.toBase58 = text ∧
        transaction.signature?.getD (.replicate 64 0) = signature)
      (Client.named transaction) := by
  intro text
  let own := transaction.signature?.getD (.replicate 64 0)
  have hcompare (read : Signature) : Adds (fun added outcome => added = [] ∧ ¬ Crashed outcome ∧
      ∀ signature, outcome = .ok signature ↔ read = signature ∧ own = signature)
      (if read = own then pure own
        else failWith (.request ("RPC node returned mismatched signature " ++ read.toBase58 ++
          ", expected " ++ own.toBase58)) : Exchanging Signature) := by
    split
    · next hown =>
      refine (Adds.pure own).mono ?_
      rintro added outcome ⟨rfl, rfl⟩
      simp [hown]
    · next hother =>
      refine (Adds.failWith _).mono ?_
      rintro added outcome ⟨rfl, rfl⟩
      refine ⟨rfl, not_crashed_failed _, fun signature => ⟨nofun, ?_⟩⟩
      rintro ⟨rfl, hown⟩
      exact absurd hown.symm hother
  refine (Adds.given_outcome _ _).bind hcompare ?_ ?_
  · -- A text of no signature is the text of none.
    rintro added abort ⟨rfl, habort⟩
    cases hread : Signature.ofBase58 text with
    | ok read =>
      rw [hread] at habort
      cases habort
    | error fault =>
      rw [hread] at habort
      cases habort
      refine ⟨rfl, not_crashed_failed _, fun signature => ⟨nofun, fun ⟨htext, _⟩ => ?_⟩⟩
      rw [← Signature.ofBase58_eq_ok_iff, hread] at htext
      cases htext
  · rintro before added read outcome ⟨rfl, hread⟩ ⟨rfl, hcrashed, hown⟩
    refine ⟨rfl, hcrashed, fun signature => (hown signature).trans (and_congr_left' ?_)⟩
    rw [← Signature.ofBase58_eq_ok_iff, mapError_eq_ok_iff.1 hread.symm, Except.ok.injEq]

namespace Client

variable (c : Client)

/-- The text that a query of one gives is the result in the reply, and a fatal reply is a crash. -/
theorem adds_query_string {request : Request} (hpoll : request.isPoll = false) :
    Adds (fun added outcome =>
        (added = [] ∧ ∃ fault, outcome = .error (.failed fault)) ∨
        ∃ x, added = [⟨request, x⟩] ∧
          (∀ text, outcome = .ok text ↔ Exchanged.answer? ⟨request, x⟩ = some (.string text)) ∧
          (Crashed outcome ↔ Exchanged.Fatal ⟨request, x⟩))
      (c.query request Json.Shape.string) := by
  refine (c.adds_exchange_result request).bind (fun result => .given_outcome _ _) ?_ ?_
  · rintro added abort (⟨rfl, fault, habort⟩ | ⟨x, url, rfl, habort⟩)
    · cases habort
      exact .inl ⟨rfl, fault, rfl⟩
    · refine .inr ⟨x, rfl, fun text => ⟨nofun, fun hanswer => ?_⟩, ?_⟩
      · rw [Exchanged.answer?, Exchange.toOption_result x "" url, ← habort] at hanswer
        cases hanswer
      · rw [Exchanged.fatal_iff_of_not_isPoll hpoll url, ← habort]
        cases abort <;> simp
  · rintro before added result outcome (⟨-, fault, hresult⟩ | ⟨x, url, rfl, hresult⟩) ⟨rfl, rfl⟩
    · cases hresult
    · refine .inr ⟨x, rfl, fun text => ?_, ?_⟩
      · rw [Exchanged.answer?, Exchange.toOption_result x "" url, ← hresult]
        cases result <;>
          simp [Json.Shape.string, Json.Shape.mistyped, Except.mapError, Except.toOption]
      · rw [Exchanged.fatal_iff_of_not_isPoll hpoll url, ← hresult]
        cases result <;> simp [Json.Shape.string, Json.Shape.mistyped, Except.mapError]

/-- The exchange of a submission, and what is made of the text in its result. -/
theorem adds_submission {request : Request} {submission : Submission}
    (hrequest : request.submission? = some submission) {read : String → Exchanging Signature}
    {accepted : String → Signature → Prop} (hread : Accepts accepted read)
    (htakes : ∀ x text signature, Exchanged.answer? ⟨request, x⟩ = some (.string text) →
      (accepted text signature ↔ Exchanged.Takes ⟨request, x⟩ signature)) :
    Adds (fun added outcome => Submits submission outcome added)
      (c.query request Json.Shape.string >>= read) := by
  have hpoll : request.isPoll = false := by cases request <;> first | rfl | cases hrequest
  refine (c.adds_query_string hpoll).bind hread ?_ ?_
  · rintro added abort (⟨rfl, fault, habort⟩ | ⟨x, rfl, htext, hcrashed⟩)
    · exact .unasked [] nofun nofun
    · -- A result that is no text is taken under no signature.
      refine .asked [] ⟨request, x⟩ nofun hrequest (fun signature => ⟨nofun, fun htaken => ?_⟩) ?_
      · cases (htext _).2 htaken.1
      · rw [← hcrashed]
        cases abort <;> simp
  · rintro before added text outcome (⟨-, fault, hfailed⟩ | ⟨x, rfl, htext, hcrashed⟩)
      ⟨rfl, hsound, htaken⟩
    · cases hfailed
    · have hanswer := (htext text).1 rfl
      refine .asked [] ⟨request, x⟩ nofun hrequest
        (fun signature => (htaken signature).trans (htakes x text signature hanswer)) ?_
      rw [← hcrashed]
      exact iff_of_false hsound (not_crashed_ok text)

theorem adds_airdrop_submits (account : PublicKey) (lamports : UInt64) :
    Adds (fun added outcome => Submits (.airdrop lamports) outcome added)
      (c.airdrop account lamports) := by
  have hask (level : String) : Adds
      (fun added outcome => Submits (.airdrop lamports) outcome added)
      (c.query (.requestAirdrop account lamports level) Json.Shape.string >>= fun text =>
        given (fun _ => airdropFailure) (Signature.ofBase58 text)) := by
    refine c.adds_submission rfl accepts_airdrop fun x text signature hanswer => ?_
    rw [Exchanged.Takes, hanswer, Option.some.injEq, Json.string.injEq, eq_comm]
    exact (and_iff_left nofun).symm
  refine (Idle.composes.adds_version c).bind (fun v => (hask _).blaming_outcome _) ?_ ?_
  · intro added abort hidle
    exact .unasked added hidle nofun
  · rintro before added v outcome hidle ⟨inner, hinner, rfl⟩
    exact (hinner.mapError _).after hidle

theorem adds_send_submits (transaction : Transaction) :
    Adds (fun added outcome => Submits .transaction outcome added) (c.send transaction) := by
  have hask (encoding : Encoding) (level : String) : Adds
      (fun added outcome => Submits .transaction outcome added)
      (c.query (.sendTransaction transaction encoding level) Json.Shape.string >>=
        named transaction) := by
    refine c.adds_submission rfl (accepts_named transaction) fun x text signature hanswer => ?_
    rw [Exchanged.Takes, hanswer, Option.some.injEq, Json.string.injEq, eq_comm]
    refine and_congr_right' ⟨?_, fun h => h _ _ _ rfl⟩
    rintro hown _ _ _ ⟨⟩
    exact hown
  refine (Idle.composes.adds_version c).bind (fun v => hask _ _) ?_ ?_
  · intro added abort hidle
    exact .unasked added hidle nofun
  · intro before added v outcome hidle hsubmits
    exact hsubmits.after hidle

theorem adds_perform_settles (call : Call) :
    Adds (fun added outcome => Settles added ⟨call, outcome⟩) (c.perform call) := by
  cases call with
  | handshake => exact Idle.composes.adds_versionText c
  | fee => exact Idle.composes.adds_fee c
  | airdrop account lamports => exact c.adds_airdrop_submits account lamports
  | confirm signature =>
    refine (c.adds_confirm signature).mono fun added outcome ⟨hrequest, _⟩ e he => ?_
    rw [hrequest e he]
    rfl
  | blockhash => exact Idle.composes.adds_blockhash c
  | send transaction => exact c.adds_send_submits transaction

end Client

/-! ## Runs -/

namespace Settles

variable {added : List Exchanged} {event : Event} {submission : Submission}

/-- An exchange that asks for a submission belongs to the call of it, and decides its outcome. -/
theorem of_mem (h : Settles added event) {e : Exchanged} (he : e ∈ added)
    (hsubmission : e.request.submission? = some submission) :
    event.1.submission? = some submission ∧
      (∀ signature, event.taken? = some signature ↔ e.Takes signature) ∧
      (Crashed event.2 ↔ e.Fatal) := by
  have hidle (h : Idle added) : False := by
    rw [h e he] at hsubmission
    cases hsubmission
  obtain ⟨call, outcome⟩ := event
  cases call with
  | handshake => exact (hidle h).elim
  | fee => exact (hidle h).elim
  | airdrop account lamports =>
    obtain ⟨rfl, htaken, hcrashed⟩ := Submits.of_mem h he hsubmission
    refine ⟨rfl, fun signature => ?_, hcrashed⟩
    rw [← htaken, Event.taken?_airdrop]
  | confirm signature => exact (hidle h).elim
  | blockhash => exact (hidle h).elim
  | send transaction =>
    obtain ⟨rfl, htaken, hcrashed⟩ := Submits.of_mem h he hsubmission
    refine ⟨rfl, fun signature => ?_, hcrashed⟩
    rw [← htaken, Event.taken?_send]

/-- A submission that was taken was asked for. -/
theorem exists_of_taken (h : Settles added event) {signature : Signature}
    (htaken : event.taken? = some signature)
    (hsubmission : event.1.submission? = some submission) :
    ∃ e ∈ added, e.request.submission? = some submission := by
  obtain ⟨call, outcome⟩ := event
  cases call with
  | airdrop account lamports =>
    obtain rfl := Event.taken?_airdrop.1 htaken
    obtain rfl := Option.some.inj hsubmission
    exact Submits.exists_of_ok h
  | send transaction =>
    obtain rfl := Event.taken?_send.1 htaken
    obtain rfl := Option.some.inj hsubmission
    exact Submits.exists_of_ok h
  | _ => cases hsubmission

end Settles

end Rpc

namespace Program

section Runs

variable {config : Config} {listens : String × Nat → Bool} {around : Surroundings}
  {replies : List Rpc.Reply} {flag : Bool} {moments : Interrupts} {submission : Submission}

/-- An exchange that asks for a submission was made in a call of it, and decides its outcome. -/
theorem exists_call_of_submission {e : Rpc.Exchanged}
    (he : e ∈ (interruptedProbe config listens around replies flag moments).state.1.log)
    (hsubmission : e.request.submission? = some submission) :
    ∃ event ∈ (interruptedProbe config listens around replies flag moments).history,
      event.1.submission? = some submission ∧
      (∀ signature, event.taken? = some signature ↔ e.Takes signature) ∧
      (Crashed event.2 ↔ e.Fatal) := by
  obtain ⟨pieces, hlog, hpieces⟩ := exists_pieces_of_adds config listens around replies flag moments
    (fun event added => Rpc.Settles added event) (client config listens).adds_perform_settles
  have hmem : e ∈ pieces.flatten := by
    rw [← hlog, List.mem_reverse]
    exact he
  obtain ⟨before, event, after, -, piece, -, hhistory, -, -, hsettles, hpiece⟩ :=
    exists_split_of_mem_flatten hpieces hmem
  refine ⟨event, ?_, hsettles.of_mem hpiece hsubmission⟩
  rw [hhistory]
  exact List.mem_append_right _ List.mem_cons_self

/-- A submission that was taken was asked for. -/
theorem exists_exchange_of_taken {event : Event} {signature : Signature}
    (hevent : event ∈ (interruptedProbe config listens around replies flag moments).history)
    (hsubmission : event.1.submission? = some submission)
    (htaken : event.taken? = some signature) :
    ∃ e ∈ (interruptedProbe config listens around replies flag moments).state.1.log,
      e.request.submission? = some submission := by
  obtain ⟨pieces, hlog, hpieces⟩ := exists_pieces_of_adds config listens around replies flag moments
    (fun event added => Rpc.Settles added event) (client config listens).adds_perform_settles
  obtain ⟨chosen, hchosen, hsettled⟩ :=
    exists_sublist_pieces hpieces (List.singleton_sublist.2 hevent)
  obtain _ | ⟨hsettles, _ | _⟩ := hsettled
  obtain ⟨e, he, hasked⟩ := hsettles.exists_of_taken htaken hsubmission
  refine ⟨e, ?_, hasked⟩
  rw [← List.mem_reverse, hlog]
  exact List.mem_flatten_of_mem (List.singleton_sublist.1 hchosen) he

end Runs

/-- An airdrop or a transaction that the node was asked for is told as rejected exactly if the node
has not taken it under a signature to go on with, whatever it has answered, and its reply was not
fatal.  One that is told as unconfirmed was asked for, and the node has taken it under the signature
that is told; a transaction under its own one. -/
theorem rejected_interruptedProbe (config : Config) (listens : String × Nat → Bool)
    (around : Surroundings) (replies : List Rpc.Reply) (flag : Bool) (moments : Interrupts) :
    let p := interruptedProbe config listens around replies flag moments
    let log := p.state.1.log
    (∀ e ∈ log, ∀ submission, e.request.submission? = some submission →
      ((∃ source, p.result = .error (.failed (.rejected submission source))) ↔
        (∀ signature, ¬ e.Takes signature) ∧ ¬ e.Fatal)) ∧
    ∀ submission signature source,
      p.result = .error (.failed (.unconfirmed submission signature source)) →
        (∃ e ∈ log, e.request.submission? = some submission) ∧
        ∀ e ∈ log, e.request.submission? = some submission → e.Takes signature := by
  intro p log
  -- There is one call of a submission at most, so it is the one that the exchange was made in.
  have hunique {event event' : Event} (h : event ∈ p.history) (h' : event' ∈ p.history)
      {submission : Submission} (hsubmission : event.1.submission? = some submission)
      (hsubmission' : event'.1.submission? = some submission) : event = event' :=
    Probe.eq_of_submission? config around _ _ flag h h' hsubmission hsubmission'
  have hrejected (submission : Submission) (source : LedgerFault) :
      p.result = .error (.failed (.rejected submission source)) ↔
        ∃ call : Call, call.submission? = some submission ∧
          ⟨call, .error (.failed source)⟩ ∈ p.history :=
    Probe.rejected_iff config around _ _ flag
  refine ⟨fun e he submission hsubmission => ?_, fun submission signature source hresult => ?_⟩
  · obtain ⟨event, hevent, hsub, htaken, hfatal⟩ := exists_call_of_submission he hsubmission
    refine Iff.trans ?_ ((Event.exists_failed_iff hsub).trans
      (and_congr (forall_congr' fun signature => not_congr (htaken signature)) (not_congr hfatal)))
    constructor
    · rintro ⟨source, hresult⟩
      obtain ⟨call, hcall, hfailed⟩ := (hrejected submission source).1 hresult
      obtain rfl := hunique hevent hfailed hsub hcall
      exact ⟨source, rfl⟩
    · rintro ⟨source, houtcome⟩
      refine ⟨source, (hrejected submission source).2 ⟨event.1, hsub, ?_⟩⟩
      rw [← houtcome]
      exact hevent
  · obtain ⟨event, hevent, hsub, htaken⟩ :=
      Probe.exists_taken_of_unconfirmed config around _ _ flag hresult
    refine ⟨exists_exchange_of_taken hevent hsub htaken, fun e he hsubmission => ?_⟩
    obtain ⟨event', hevent', hsub', htaken', -⟩ := exists_call_of_submission he hsubmission
    obtain rfl := hunique hevent hevent' hsub hsub'
    exact (htaken' signature).1 htaken

/-- The node was asked for a submission, and its reply has a result. -/
def isAnswered (submission : Submission) (e : Rpc.Exchanged) : Bool :=
  e.request.submission? = some submission && e.answer?.isSome

def isRejected (submission : Submission) : Probe.Result → Bool
  | .error (.failed (.rejected rejected _)) => rejected = submission
  | _ => false

theorem exists_answered {submission : Submission} {log : List Rpc.Exchanged}
    (h : log.any (isAnswered submission) = true) :
    ∃ e ∈ log, e.request.submission? = some submission ∧ e.answer? ≠ none := by
  obtain ⟨e, hmem, he⟩ := List.any_eq_true.1 h
  rw [isAnswered, Bool.and_eq_true_iff, decide_eq_true_iff, Option.isSome_iff_ne_none] at he
  exact ⟨e, hmem, he⟩

theorem exists_rejected {submission : Submission} {result : Probe.Result}
    (h : isRejected submission result = true) :
    ∃ source, result = .error (.failed (.rejected submission source)) := by
  unfold isRejected at h
  split at h
  · rw [← of_decide_eq_true h]
    exact ⟨_, rfl⟩
  · cases h

/-- The node answers an airdrop with a result, which is no signature, and the airdrop is told as
rejected. -/
theorem interruptedProbe_rejects_answered :
    let submission : Submission := .airdrop 500000
    let p := interruptedProbe { endpoint := "http://[::1]" } (fun _ => true)
      ⟨fun _ => .error .notFound, .ofSeed (.replicate 32 0)⟩ (repliesOf [.string "x"]) false .none
    (∃ e ∈ p.state.1.log, e.request.submission? = some submission ∧ e.answer? ≠ none) ∧
    ∃ source, p.result = .error (.failed (.rejected submission source)) := by
  intro submission p
  have hrun : (p.state.1.log.any (isAnswered submission) && isRejected submission p.result) =
      true := by
    decide +kernel
  obtain ⟨hanswered, hrejected⟩ := Bool.and_eq_true_iff.1 hrun
  exact ⟨exists_answered hanswered, exists_rejected hrejected⟩

end Program

end ClusterProbe
