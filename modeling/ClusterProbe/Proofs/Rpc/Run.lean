import ClusterProbe.Program
import ClusterProbe.Proofs.Probe.Calls
import ClusterProbe.Proofs.Rpc.Calls
import Mathlib.Data.List.Flatten
import Mathlib.Data.List.Forall2

/-!
# The exchanges of a probe

A probe over the client of a node hands in a transaction once at most.  A generated payer has by
then been given an airdrop that the node showed as landed, and a probe succeeds only where the node
has shown its transaction as landed as well.
-/

open scoped List

namespace ClusterProbe

/-! ## Lists in pieces -/

section Pieces

variable {α β : Type} {R : α → List β → Prop} {xs : List α} {pieces : List (List β)}

/-- Some items of a list have their pieces in the same order. -/
theorem exists_sublist_pieces (h : List.Forall₂ R xs pieces) {chosen : List α} (hsub : chosen <+ xs) :
    ∃ chosen', chosen' <+ pieces ∧ List.Forall₂ R chosen chosen' := by
  induction hsub generalizing pieces with
  | slnil => exact ⟨[], List.nil_sublist _, .nil⟩
  | cons x _ ih =>
    obtain ⟨piece, rest, -, hrest, rfl⟩ := List.forall₂_cons_left_iff.1 h
    obtain ⟨chosen', hsub', hchosen'⟩ := ih hrest
    exact ⟨chosen', hsub'.cons piece, hchosen'⟩
  | cons_cons x _ ih =>
    obtain ⟨piece, rest, hpiece, hrest, rfl⟩ := List.forall₂_cons_left_iff.1 h
    obtain ⟨chosen', hsub', hchosen'⟩ := ih hrest
    exact ⟨piece :: chosen', hsub'.cons_cons piece, .cons hpiece hchosen'⟩

/-- Members of some pieces stand in the order of the pieces. -/
theorem sublist_flatten {members : List β} {chosen : List (List β)}
    (h : List.Forall₂ (· ∈ ·) members chosen) (hsub : chosen <+ pieces) :
    members <+ pieces.flatten := by
  refine List.Sublist.trans ?_ hsub.flatten
  clear hsub
  induction h with
  | nil => exact List.nil_sublist _
  | cons hmem _ ih => exact (List.singleton_sublist.2 hmem).append ih

/-- A member of a piece belongs to an item, and what comes before it to the items before. -/
theorem exists_split_of_mem_flatten (h : List.Forall₂ R xs pieces) {member : β}
    (hmem : member ∈ pieces.flatten) :
    ∃ before x after before' piece after', xs = before ++ x :: after ∧
      pieces = before' ++ piece :: after' ∧ List.Forall₂ R before before' ∧ R x piece ∧
      member ∈ piece := by
  obtain ⟨piece, hpiece, hmember⟩ := List.mem_flatten.1 hmem
  obtain ⟨before', after', rfl⟩ := List.append_of_mem hpiece
  have hbefore := List.forall₂_take_append _ _ _ h
  obtain ⟨x, after, hx, -, hdrop⟩ :=
    List.forall₂_cons_right_iff.1 (List.forall₂_drop_append _ _ _ h)
  refine ⟨_, x, after, before', piece, after', ?_, rfl, hbefore, hx, hmember⟩
  rw [← hdrop, List.take_append_drop]

end Pieces

namespace Rpc

/-- What each call adds to the log, a run adds piece by piece. -/
theorem Client.exists_pieces_of_adds (c : Client) (post : Event → List Exchanged → Prop)
    (hadds : ∀ call, Adds (fun added outcome => post ⟨call, outcome⟩ added) (c.perform call))
    {α : Type} (moments : Interrupts) (d : Dialogue α) (session : Session) (n : Nat) (flag : Bool) :
    let p := d.play (c.ledger.interrupted moments) (session, n) flag
    ∃ pieces : List (List Exchanged),
      p.state.1.log = pieces.flatten.reverse ++ session.log ∧
      List.Forall₂ post p.history pieces := by
  induction d generalizing session n flag with
  | done result => exact ⟨[], rfl, .nil⟩
  | begin step stop next ihstop ih =>
    cases h : (c.ledger.interrupted moments).arrives (session, n) step with
    | true =>
      rw [Dialogue.play_begin_of_arrives _ stop next flag h]
      exact ihstop session n true
    | false =>
      rw [Dialogue.play_begin _ stop next flag h]
      exact ih session n flag
  | ask call next ih =>
    -- The pieces of the later calls come after this one's in the log.
    let start : Session := { session with flag := flag || moments.before n }
    obtain ⟨added, hlog, hpost⟩ := hadds call start
    rcases hrun : (c.perform call).run.run start with ⟨outcome, session'⟩
    rw [hrun] at hlog hpost
    have hanswer : (c.ledger.interrupted moments).answer (session, n) flag call =
        (outcome, moments.during n || session'.flag, (session', n + 1)) := by
      simp only [Ledger.interrupted, ledger, start] at hrun ⊢
      rw [hrun]
    obtain ⟨pieces, hlog', hpieces⟩ :=
      ih outcome (flag || (moments.during n || session'.flag)) session' (n + 1)
        (flag || (moments.during n || session'.flag))
    rw [Dialogue.play_ask _ next hanswer]
    refine ⟨added :: pieces, ?_, .cons hpost hpieces⟩
    rw [Played.state_after, hlog', hlog, List.flatten_cons, List.reverse_append, List.append_assoc]

/-- The exchanges of a run belong, piece by piece, to its calls. -/
theorem Client.exists_pieces {α : Type} (c : Client) (moments : Interrupts) (d : Dialogue α)
    (session : Session) (n : Nat) (flag : Bool) :
    let p := d.play (c.ledger.interrupted moments) (session, n) flag
    ∃ pieces : List (List Exchanged),
      p.state.1.log = pieces.flatten.reverse ++ session.log ∧
      List.Forall₂ (fun event added => Leaves c.confirmation.level added event)
        p.history pieces :=
  c.exists_pieces_of_adds _ c.adds_perform moments d session n flag

namespace Leaves

variable {level : Commitment} {added : List Exchanged} {event : Event}

/-- Only a call that hands in a transaction leaves an exchange that does. -/
theorem exists_send (h : Leaves level added event) {sent : Exchanged} (hmem : sent ∈ added)
    (hsend : sent.request.isSend = true) :
    ∃ transaction outcome, event = ⟨.send transaction, outcome⟩ := by
  have hharmful : ¬ Harmless added := fun hharmless => hharmless.not_isSend hmem hsend
  obtain ⟨call, outcome⟩ := event
  cases call with
  | handshake => exact absurd h hharmful
  | fee => exact absurd h hharmful
  | airdrop account lamports => exact absurd h.1 hharmful
  | confirm signature => exact absurd h.1 hharmful
  | blockhash => exact absurd h hharmful
  | send transaction => exact ⟨transaction, outcome, rfl⟩

theorem countP_isSend_le (h : Leaves level added event) :
    added.countP (·.request.isSend) ≤ if event.1.isSend then 1 else 0 := by
  obtain ⟨call, outcome⟩ := event
  cases call with
  | handshake => exact (Harmless.countP_isSend h).le
  | fee => exact (Harmless.countP_isSend h).le
  | airdrop account lamports => exact (Harmless.countP_isSend h.1).le
  | confirm signature => exact (Harmless.countP_isSend h.1).le
  | blockhash => exact (Harmless.countP_isSend h).le
  | send transaction => exact h.1

/-- A run hands in no more transactions than its calls do. -/
theorem countP_isSend_flatten_le {history : List Event} {pieces : List (List Exchanged)}
    (h : List.Forall₂ (fun event added => Leaves level added event) history pieces) :
    pieces.flatten.countP (·.request.isSend) ≤ (history.map (·.1)).countP Call.isSend := by
  induction h with
  | nil => exact Nat.le_refl 0
  | cons hleaves _ ih =>
    rw [List.flatten_cons, List.countP_append, List.map_cons, List.countP_cons]
    have hle := hleaves.countP_isSend_le
    omega

variable {events : List Event} {pieces : List (List Exchanged)}

/-- An airdrop that was given and confirmed has a text that the node gave and then showed as
landed. -/
theorem exists_funding
    (h : List.Forall₂ (fun event added => Leaves level added event) events pieces)
    {account : PublicKey} {lamports : UInt64} {airdrop : Signature}
    (hsub : [⟨.airdrop account lamports, .ok airdrop⟩, ⟨.confirm airdrop, .ok ()⟩] <+ events) :
    ∃ asked landed text, [asked, landed] <+ pieces.flatten ∧
      asked.Grants account lamports text ∧ landed.Lands level text := by
  obtain ⟨chosen, hchosen, hfunding⟩ := exists_sublist_pieces h hsub
  obtain _ | ⟨⟨-, hgrants⟩, _ | ⟨⟨-, hlands⟩, _ | _⟩⟩ := hfunding
  obtain ⟨asked, hasked, hgrants⟩ := hgrants airdrop rfl
  obtain ⟨landed, hlanded, hlands⟩ := hlands rfl
  exact ⟨asked, landed, _, sublist_flatten (.cons hasked (.cons hlanded .nil)) hchosen, hgrants,
    hlands⟩

/-- A transaction that was taken and confirmed was named by its own signature, which the node then
showed as landed. -/
theorem exists_submission
    (h : List.Forall₂ (fun event added => Leaves level added event) events pieces)
    {transaction : Transaction} {signature : Signature}
    (hsub : [⟨.send transaction, .ok signature⟩, ⟨.confirm signature, .ok ()⟩] <+ events) :
    transaction.signature?.getD (.replicate 64 0) = signature ∧
    ∃ sent landed, [sent, landed] <+ pieces.flatten ∧ sent.Hands transaction ∧
      sent.answer? = some (.string signature.toBase58) ∧
      landed.Lands level signature.toBase58 := by
  obtain ⟨chosen, hchosen, hsubmission⟩ := exists_sublist_pieces h hsub
  obtain _ | ⟨⟨-, -, hnamed⟩, _ | ⟨⟨-, hlands⟩, _ | _⟩⟩ := hsubmission
  obtain ⟨hown, sent, hsent, hands, hanswer⟩ := hnamed signature rfl
  obtain ⟨landed, hlanded, hlands⟩ := hlands rfl
  exact ⟨hown, sent, landed, sublist_flatten (.cons hsent (.cons hlanded .nil)) hchosen, hands,
    hanswer, hlands⟩

end Leaves

end Rpc

namespace Program

/-- A probe over the client of a node, from a given flag on, with interrupts that arrive at the given
moments besides those that come with the replies. -/
def interruptedProbe (config : Config) (listens : String × Nat → Bool) (around : Surroundings)
    (replies : List Rpc.Reply) (flag : Bool) (moments : Interrupts) :
    Played (Rpc.Session × Nat) Probe.Result :=
  Probe.run config around ((client config listens).ledger.interrupted moments)
    ({ exchanges := Rpc.Exchange.ofReplies replies, flag }, 0) flag

/-- The program's own probe is the one without such interrupts. -/
theorem interruptedProbe_none (config : Config) (listens : String × Nat → Bool)
    (around : Surroundings) (replies : List Rpc.Reply) (flag : Bool) :
    let p := interruptedProbe config listens around replies flag .none
    let q := probe config listens around replies flag
    p.trail = q.trail ∧ p.result = q.result ∧ p.flag = q.flag ∧ p.state.1 = q.state :=
  Dialogue.play_interrupted_none _ _ _ 0 flag

/-- The log of a probe has what each of its calls adds, piece by piece. -/
theorem exists_pieces_of_adds (config : Config) (listens : String × Nat → Bool)
    (around : Surroundings) (replies : List Rpc.Reply) (flag : Bool) (moments : Interrupts)
    (post : Event → List Rpc.Exchanged → Prop)
    (hadds : ∀ call, Rpc.Adds (fun added outcome => post ⟨call, outcome⟩ added)
      ((client config listens).perform call)) :
    let p := interruptedProbe config listens around replies flag moments
    ∃ pieces, p.state.1.log.reverse = pieces.flatten ∧ List.Forall₂ post p.history pieces := by
  intro p
  obtain ⟨pieces, hlog, hpieces⟩ := (client config listens).exists_pieces_of_adds post hadds moments
    (Probe.course config around flag) { exchanges := Rpc.Exchange.ofReplies replies, flag } 0 flag
  rw [List.append_nil] at hlog
  exact ⟨pieces, (congrArg List.reverse hlog).trans (List.reverse_reverse _), hpieces⟩

/-- A probe's transaction is written as its only signature and its message. -/
theorem octets_of_fits {plan : Plan} {config : Config} {around : Surroundings}
    (fits : plan.Fits config around)
    (hown : plan.transaction.signature?.getD (.replicate 64 0) = plan.signature) :
    plan.transaction.octets =
      1 :: plan.signature.toList ++ plan.transaction.message.octets := by
  rw [← hown, Transaction.signature?, Transaction.octets, fits.signatures]
  simp [CompactLength.encode]

/-- At most one exchange of a probe hands in a transaction.  With a generated payer it comes after
one that gives an airdrop a signature text, and one that shows this very text as landed.  A probe
that succeeds has handed in a transaction, the node has named it by the signature in it, and has
then shown this signature, which is the one in the receipt, as landed. -/
theorem log_interruptedProbe (config : Config) (listens : String × Nat → Bool)
    (around : Surroundings) (replies : List Rpc.Reply) (flag : Bool) (moments : Interrupts) :
    let p := interruptedProbe config listens around replies flag moments
    let log := p.state.1.log.reverse
    let level := config.confirmation.level
    log.countP (·.request.isSend) ≤ 1 ∧
    (config.keypair = none → ∀ sent ∈ log, sent.request.isSend = true →
      ∃ asked landed account lamports text, [asked, landed, sent] <+ log ∧
        asked.Grants account lamports text ∧ landed.Lands level text) ∧
    ∀ receipt, p.result = .ok receipt →
      ∃ sent landed transaction, [sent, landed] <+ log ∧ sent.Hands transaction ∧
        transaction.octets =
          1 :: receipt.transaction.toList ++ transaction.message.octets ∧
        sent.answer? = some (.string receipt.transaction.toBase58) ∧
        landed.Lands level receipt.transaction.toBase58 := by
  intro p log level
  obtain ⟨pieces, hlog, hpieces⟩ := (client config listens).exists_pieces moments
    (Probe.course config around flag) { exchanges := Rpc.Exchange.ofReplies replies, flag } 0 flag
  have hlog' : log = pieces.flatten := by
    rw [List.append_nil] at hlog
    exact (congrArg List.reverse hlog).trans (List.reverse_reverse _)
  rw [hlog']
  refine ⟨?_, fun hkeypair sent hsent hsend => ?_, fun receipt hreceipt => ?_⟩
  · -- Each call leaves one such exchange at most, and only one of the calls leaves any.
    exact (Rpc.Leaves.countP_isSend_flatten_le hpieces).trans
      (Probe.countP_isSend_calls_le config around _ _ flag)
  · -- What the calls before the transaction left stands before it in the log.
    obtain ⟨before, event, after, before', piece, after', hhistory, rfl, hbefore, hleaves, hmem⟩ :=
      exists_split_of_mem_flatten hpieces hsent
    obtain ⟨transaction, outcome, rfl⟩ := hleaves.exists_send hmem hsend
    obtain ⟨plan, hcalls, hdropLast, -⟩ := Probe.exists_plan_run config around
      ((client config listens).ledger.interrupted moments) _ flag
    have hfunded := Plan.funded_of_send hkeypair hcalls hdropLast hhistory
    obtain ⟨asked, landed, text, hsub, hgrants, hlands⟩ := Rpc.Leaves.exists_funding hbefore hfunded
    refine ⟨asked, landed, _, _, text, ?_, hgrants, hlands⟩
    rw [List.flatten_append, List.flatten_cons]
    exact hsub.append (List.singleton_sublist.2 (List.mem_append_left _ hmem))
  · -- A probe that succeeds makes the last two calls of its plan.
    obtain ⟨plan, fits, hhistory, rfl⟩ := Probe.exists_plan_of_ok hreceipt
    have hlast := plan.submitted_sublist_events config
    rw [← hhistory] at hlast
    obtain ⟨hown, sent, landed, hsub, hands, hanswer, hlands⟩ :=
      Rpc.Leaves.exists_submission hpieces hlast
    exact ⟨sent, landed, plan.transaction, hsub, hands, octets_of_fits fits hown, hanswer, hlands⟩

/-- The replies of a node that gives its version, a block hash and a fee, and then other results. -/
def repliesOf (results : List Json) : List Rpc.Reply :=
  let inContext (value : Json) : Json :=
    .object [("context", .object [("slot", .ofNat 1)]), ("value", value)]
  let version : Json := .object [("solana-core", .string "1.18.26")]
  let blockhash : Json := .object [("blockhash", .string "11111111111111111111111111111111"),
    ("lastValidBlockHeight", .ofNat 1)]
  ([version, version, inContext blockhash, inContext (.ofNat 5000)] ++ results).map fun result =>
    { body := fun _ => Rpc.Exchange.bodyOf (.object [("result", result)]) }

end Program

end ClusterProbe
