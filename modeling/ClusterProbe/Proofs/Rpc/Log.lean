import ClusterProbe.Proofs.Base58
import ClusterProbe.Rpc.Client

/-!
# The log of a session

What the parts of a call add to the log of exchanges that have taken place, and how that belongs to
their outcomes.
-/

namespace ClusterProbe.Rpc

def Request.isSend : Request → Bool
  | .sendTransaction .. => true
  | _ => false

/-- The request asks for the node's version, a block hash or a fee. -/
def Request.isQuery : Request → Bool
  | .getVersion => true
  | .getLatestBlockhash _ => true
  | .getFees _ => true
  | .getFeeForMessage .. => true
  | _ => false

/-- The result that the node gave, if it gave one. -/
def Exchanged.answer? (e : Exchanged) : Option Json :=
  (e.exchange.result "" e.request).toOption

/-- Only a fault tells of the URL. -/
theorem Exchange.toOption_result (x : Exchange) (url url' : String) (request : Request) :
    (x.result url request).toOption = (x.result url' request).toOption := by
  unfold Exchange.result
  split
  · rfl
  · split <;> rfl

theorem mapError_eq_ok_iff {ε ε' α : Type} {f : ε → ε'} {outcome : Except ε α} {a : α} :
    outcome.mapError f = .ok a ↔ outcome = .ok a := by
  cases outcome <;> simp [Except.mapError]

/-! ## What parts of a call add -/

section Parts

variable {α β : Type} {part : Exchanging α} {next : α → Exchanging β} {session session' : Session}

theorem run_bind_ok {a : α} (h : part.run.run session = (.ok a, session')) :
    (part >>= next).run.run session = (next a).run.run session' := by
  rw [ExceptT.run_bind, StateT.run_bind, h]
  rfl

theorem run_bind_error {abort : Abort LedgerFault}
    (h : part.run.run session = (.error abort, session')) :
    (part >>= next).run.run session = (.error abort, session') := by
  rw [ExceptT.run_bind, StateT.run_bind, h]
  rfl

theorem run_conclude (result : Except (Abort LedgerFault) α) :
    (conclude result).run.run session = (result, session) := by
  cases result <;> rfl

theorem run_bind_get {next : Session → Exchanging β} :
    (get >>= next).run.run session = (next session).run.run session := rfl

/-- From every session on, the part adds to the log what belongs to its outcome. -/
def Adds (post : List Exchanged → Except (Abort LedgerFault) α → Prop) (part : Exchanging α) :
    Prop :=
  ∀ session : Session, ∃ added,
    (part.run.run session).2.log = added.reverse ++ session.log ∧
    post added (part.run.run session).1

end Parts

namespace Adds

variable {α β : Type} {part : Exchanging α} {next : α → Exchanging β}
  {pre : List Exchanged → Except (Abort LedgerFault) α → Prop}
  {post : List Exchanged → Except (Abort LedgerFault) β → Prop}

theorem mono {wider : List Exchanged → Except (Abort LedgerFault) α → Prop} (h : Adds pre part)
    (hle : ∀ added outcome, pre added outcome → wider added outcome) : Adds wider part := by
  intro session
  obtain ⟨added, hlog, hpre⟩ := h session
  exact ⟨added, hlog, hle _ _ hpre⟩

theorem pure (a : α) : Adds (fun added outcome => added = [] ∧ outcome = .ok a)
    (Pure.pure a : Exchanging α) :=
  fun _ => ⟨[], rfl, rfl, rfl⟩

theorem failWith (fault : LedgerFault) :
    Adds (fun added outcome => added = [] ∧ outcome = .error (.failed fault))
      (Rpc.failWith fault : Exchanging α) :=
  fun _ => ⟨[], rfl, rfl, rfl⟩

theorem given_outcome {ε : Type} (fault : ε → LedgerFault) (result : Except ε α) :
    Adds (fun added outcome => added = [] ∧
      outcome = result.mapError fun e => .failed (fault e)) (Rpc.given fault result) := by
  cases result with
  | ok a => exact pure a
  | error e => exact failWith (fault e)

theorem given {ε : Type} (fault : ε → LedgerFault) (result : Except ε α) :
    Adds (fun added outcome => added = [] ∧ ∀ a, outcome = .ok a → result = .ok a)
      (Rpc.given fault result) :=
  (given_outcome fault result).mono fun _ _ ⟨hadded, houtcome⟩ =>
    ⟨hadded, fun _ ha => mapError_eq_ok_iff.1 (houtcome.symm.trans ha)⟩

/-- A part that fails ends the call, and after one that does not the rest adds more. -/
theorem bind {mid : α → List Exchanged → Except (Abort LedgerFault) β → Prop} (h : Adds pre part)
    (hnext : ∀ a, Adds (mid a) (next a))
    (herror : ∀ added abort, pre added (.error abort) → post added (.error abort))
    (hok : ∀ before added a outcome, pre before (.ok a) → mid a added outcome →
      post (before ++ added) outcome) :
    Adds post (part >>= next) := by
  intro session
  obtain ⟨before, hbefore, hpre⟩ := h session
  rcases hrun : part.run.run session with ⟨abort | a, session'⟩
  · rw [hrun] at hbefore hpre
    rw [run_bind_error hrun]
    exact ⟨before, hbefore, herror before abort hpre⟩
  · rw [hrun] at hbefore hpre
    rw [run_bind_ok hrun]
    obtain ⟨added, hadded, hmid⟩ := hnext a session'
    -- The log begins with the latest exchange.
    refine ⟨before ++ added, ?_, hok before added a _ hpre hmid⟩
    rw [hadded, hbefore, List.reverse_append, List.append_assoc]

theorem blaming_outcome (reason : LedgerFault → LedgerFault) (h : Adds pre part) :
    Adds (fun added outcome => ∃ inner, pre added inner ∧
      outcome = inner.mapError (Abort.map reason)) (Rpc.blaming reason part) := by
  intro session
  obtain ⟨added, hlog, hpre⟩ := h session
  exact ⟨added, hlog, _, hpre, rfl⟩

/-- Another reason changes no more than the fault. -/
theorem blaming (reason : LedgerFault → LedgerFault) (h : Adds pre part) :
    Adds (fun added outcome => ∃ inner, pre added inner ∧ ∀ a, outcome = .ok a → inner = .ok a)
      (Rpc.blaming reason part) :=
  (h.blaming_outcome reason).mono fun _ _ ⟨inner, hpre, houtcome⟩ =>
    ⟨inner, hpre, fun _ ha => mapError_eq_ok_iff.1 (houtcome.symm.trans ha)⟩

end Adds

/-! ## Exchanges -/

/-- Some exchanges are one exchange of a request at most, and one with a result of a shape where the
outcome is what was read in it. -/
structure Asked {α : Type} (request : Request) (shape : Json.Shape α) (added : List Exchanged)
    (outcome : Except (Abort LedgerFault) α) : Prop where
  once : added = [] ∨ ∃ x, added = [⟨request, x⟩]
  answer : ∀ a, outcome = .ok a → ∃ x result, added = [⟨request, x⟩] ∧
    Exchanged.answer? ⟨request, x⟩ = some result ∧ shape result = .ok a

namespace Asked

variable {α : Type} {request : Request} {shape : Json.Shape α} {added : List Exchanged}
  {outcome : Except (Abort LedgerFault) α} (h : Asked request shape added outcome)

include h

theorem request_eq : ∀ e ∈ added, e.request = request := by
  rcases h.once with rfl | ⟨x, rfl⟩ <;> simp

theorem length_le_one : added.length ≤ 1 := by
  rcases h.once with rfl | ⟨x, rfl⟩
  · exact Nat.zero_le 1
  · exact Nat.le_refl 1

end Asked

namespace Client

variable (c : Client) {request : Request} {session : Session}

theorem run_exchange_unreached {fault : HttpFault} (h : c.reach = .error fault) :
    (c.exchange request).run.run session = (.error (.failed (.http fault)), session) := by
  simp only [exchange, h]
  rfl

theorem run_exchange {url : String} (h : c.reach = .ok url) :
    (c.exchange request).run.run session =
      ((session.exchanges.headD .spent).result url request,
        session.after request [session.exchanges.headD .spent]) := by
  rw [← run_conclude]
  simp only [exchange, h]
  rfl

/-- An exchange adds itself to the log, unless the node cannot be reached. -/
theorem adds_exchange_result (request : Request) :
    Adds (fun added outcome => (added = [] ∧ ∃ fault, outcome = .error (.failed fault)) ∨
      ∃ x url, added = [⟨request, x⟩] ∧ outcome = x.result url request) (c.exchange request) := by
  intro session
  cases h : c.reach with
  | error fault =>
    rw [run_exchange_unreached c h]
    exact ⟨[], rfl, .inl ⟨rfl, _, rfl⟩⟩
  | ok url =>
    rw [run_exchange c h]
    exact ⟨_, rfl, .inr ⟨session.exchanges.headD .spent, url, rfl, rfl⟩⟩

theorem adds_exchange (request : Request) : Adds (Asked request .ok) (c.exchange request) := by
  refine (c.adds_exchange_result request).mono ?_
  rintro added outcome (⟨rfl, fault, rfl⟩ | ⟨x, url, rfl, rfl⟩)
  · exact ⟨.inl rfl, nofun⟩
  · refine ⟨.inr ⟨x, rfl⟩, fun result hresult => ⟨x, result, rfl, ?_, rfl⟩⟩
    rw [Exchanged.answer?, Exchange.toOption_result _ "" url, hresult]
    rfl

theorem adds_query {α : Type} (request : Request) (shape : Json.Shape α) :
    Adds (Asked request shape) (c.query request shape) := by
  refine (c.adds_exchange request).bind (fun result => .given _ _) ?_ ?_
  · intro added abort hasked
    exact ⟨hasked.once, nofun⟩
  · rintro before added result outcome hasked ⟨rfl, hgiven⟩
    rw [List.append_nil]
    refine ⟨hasked.once, fun a ha => ?_⟩
    obtain ⟨x, result', hadded, hanswer, hresult⟩ := hasked.answer result rfl
    cases hresult
    exact ⟨x, result, hadded, hanswer, hgiven a ha⟩

end Client

/-! ## Composed calls -/

/-- A postcondition that a call has as soon as each of its exchanges has it: one for parts of all
types, and of exchanges of some requests, among them all queries. -/
structure Composes (asked : Request → Prop)
    (post : (α : Type) → List Exchanged → Except (Abort LedgerFault) α → Prop) : Prop where
  queries : ∀ request, request.isQuery = true → asked request
  exchange : ∀ request x url, asked request → post Json [⟨request, x⟩] (x.result url request)
  ok : ∀ α a, post α [] (.ok a)
  failed : ∀ α fault, post α [] (.error (.failed fault))
  error : ∀ α β added abort, post α added (.error abort) → post β added (.error abort)
  blaming : ∀ α added abort reason, post α added (.error abort) →
    post α added (.error (Abort.map reason abort))
  append : ∀ α β before a added outcome, post α before (.ok a) → post β added outcome →
    post β (before ++ added) outcome

namespace Composes

variable {asked : Request → Prop}
  {post : (α : Type) → List Exchanged → Except (Abort LedgerFault) α → Prop}
  (h : Composes asked post) {α β : Type} {part : Exchanging α} {next : α → Exchanging β} (c : Client)

include h

theorem adds_pure (a : α) : Adds (post α) (Pure.pure a : Exchanging α) :=
  fun _ => ⟨[], rfl, h.ok α a⟩

theorem adds_failWith (fault : LedgerFault) : Adds (post α) (Rpc.failWith fault : Exchanging α) :=
  fun _ => ⟨[], rfl, h.failed α fault⟩

theorem adds_given {ε : Type} (fault : ε → LedgerFault) (result : Except ε α) :
    Adds (post α) (Rpc.given fault result) := by
  cases result with
  | ok a => exact h.adds_pure a
  | error e => exact h.adds_failWith (fault e)

theorem adds_bind (hpart : Adds (post α) part) (hnext : ∀ a, Adds (post β) (next a)) :
    Adds (post β) (part >>= next) :=
  hpart.bind hnext (fun _ _ => h.error α β _ _) fun _ _ _ _ => h.append α β _ _ _ _

theorem adds_blaming (reason : LedgerFault → LedgerFault) (hpart : Adds (post α) part) :
    Adds (post α) (Rpc.blaming reason part) := by
  refine (hpart.blaming_outcome reason).mono ?_
  rintro added outcome ⟨a | abort, hpost, rfl⟩
  · exact h.blaming α added _ reason hpost
  · exact hpost

theorem adds_query {request : Request} (hasked : asked request) (shape : Json.Shape α) :
    Adds (post α) (c.query request shape) := by
  refine h.adds_bind ((c.adds_exchange_result request).mono ?_) fun result => h.adds_given _ _
  rintro added outcome (⟨rfl, fault, rfl⟩ | ⟨x, url, rfl, rfl⟩)
  · exact h.failed Json fault
  · exact h.exchange request x url hasked

theorem adds_versionText : Adds (post String) c.versionText :=
  h.adds_query c (h.queries _ rfl) versionInfo

theorem adds_askVersion : Adds (post Semver) c.askVersion :=
  h.adds_bind (h.adds_blaming _ (h.adds_versionText c)) fun _ =>
    h.adds_bind (h.adds_given _ _) fun v _ => ⟨[], rfl, h.ok Semver v⟩

theorem adds_version : Adds (post Semver) c.version := by
  intro session
  cases hversion : session.version with
  | some v =>
    have hrun : c.version.run.run session = (.ok v, session) := by
      simp only [Client.version]
      rw [run_bind_get, hversion]
      rfl
    rw [hrun]
    exact ⟨[], rfl, h.ok Semver v⟩
  | none =>
    have hrun : c.version.run.run session = c.askVersion.run.run session := by
      simp only [Client.version]
      rw [run_bind_get, hversion]
    rw [hrun]
    exact h.adds_askVersion c session

theorem adds_blockhash : Adds (post BlockHash) c.blockhash := by
  refine h.adds_bind (h.adds_version c) fun v => ?_
  dsimp only
  split
  · exact h.adds_bind (h.adds_query c (h.queries _ rfl) _) fun text => h.adds_given _ _
  · exact h.adds_bind (h.adds_query c (h.queries _ rfl) _) fun text => h.adds_given _ _

theorem adds_fee : Adds (post UInt64) c.fee := by
  refine h.adds_bind (h.adds_blockhash c) fun hash =>
    h.adds_bind (h.adds_query c (h.queries _ rfl) _) fun fee => ?_
  cases fee with
  | some n => exact h.adds_pure _
  | none => exact h.adds_failWith _

theorem adds_airdrop {account : PublicKey} {lamports : UInt64}
    (hasked : ∀ level, asked (.requestAirdrop account lamports level)) :
    Adds (post Signature) (c.airdrop account lamports) :=
  h.adds_bind (h.adds_version c) fun _ => h.adds_blaming _ <|
    h.adds_bind (h.adds_query c (hasked _) _) fun _ => h.adds_given _ _

theorem adds_named (transaction : Transaction) (text : String) :
    Adds (post Signature) (Client.named transaction text) := by
  refine h.adds_bind (h.adds_given _ _) fun signature => ?_
  dsimp only
  split
  · exact h.adds_pure _
  · exact h.adds_failWith _

theorem adds_send {transaction : Transaction}
    (hasked : ∀ encoding level, asked (.sendTransaction transaction encoding level)) :
    Adds (post Signature) (c.send transaction) :=
  h.adds_bind (h.adds_version c) fun _ =>
    h.adds_bind (h.adds_query c (hasked _ _) _) fun _ => h.adds_named transaction _

end Composes

/-! ## Calls that hand nothing in -/

/-- No exchange hands in a transaction. -/
def Harmless (added : List Exchanged) : Prop := ∀ e ∈ added, e.request.isSend = false

namespace Harmless

theorem of_nil {added : List Exchanged} (h : added = []) : Harmless added := by
  rw [h]
  exact nofun

theorem not_isSend {added : List Exchanged} (h : Harmless added) {e : Exchanged} (he : e ∈ added) :
    ¬ e.request.isSend = true := by
  rw [h e he]
  exact Bool.false_ne_true

theorem countP_isSend {added : List Exchanged} (h : Harmless added) :
    added.countP (·.request.isSend) = 0 :=
  List.countP_eq_zero.2 fun _ he => h.not_isSend he

theorem append {before added : List Exchanged} (h : Harmless before) (h' : Harmless added) :
    Harmless (before ++ added) := by
  intro e he
  rcases List.mem_append.1 he with he | he
  · exact h e he
  · exact h' e he

theorem of_asked {α : Type} {request : Request} {shape : Json.Shape α} {added : List Exchanged}
    {outcome : Except (Abort LedgerFault) α} (h : Asked request shape added outcome)
    (hrequest : request.isSend = false) : Harmless added := by
  intro e he
  rw [h.request_eq e he, hrequest]

theorem composes : Composes (·.isSend = false) fun _ added _ => Harmless added where
  queries request h := by cases request <;> first | rfl | cases h
  exchange request x url h := by
    intro e he
    rw [List.mem_singleton.1 he]
    exact h
  ok _ _ := .of_nil rfl
  failed _ _ := .of_nil rfl
  error _ _ _ _ h := h
  blaming _ _ _ _ h := h
  append _ _ _ _ _ _ h h' := h.append h'

end Harmless

namespace Client

variable (c : Client)

theorem harmless_versionText : Adds (fun added _ => Harmless added) c.versionText :=
  Harmless.composes.adds_versionText c

theorem harmless_version : Adds (fun added _ => Harmless added) c.version :=
  Harmless.composes.adds_version c

theorem harmless_blockhash : Adds (fun added _ => Harmless added) c.blockhash :=
  Harmless.composes.adds_blockhash c

theorem harmless_fee : Adds (fun added _ => Harmless added) c.fee :=
  Harmless.composes.adds_fee c

end Client

end ClusterProbe.Rpc
