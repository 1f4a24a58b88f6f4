import ClusterProbe.Proofs.Rpc.Causes
import ClusterProbe.Proofs.Rpc.Run

/-!
# Replies that crash a probe

No reply but a fatal one brings a probe down, and each fatal one does.  Apart from replies only the
number of polls can, which is counted in 32 bits.
-/

namespace ClusterProbe

/-- The outcome is a crash of the whole program. -/
def Crashed {ε α : Type} (outcome : Except (Abort ε) α) : Prop :=
  ∃ text, outcome = .error (.crashed text)

section Crashed

variable {ε ε' α β : Type}

@[simp] theorem not_crashed_ok (a : α) : ¬ Crashed (.ok a : Except (Abort ε) α) :=
  fun ⟨_, h⟩ => nomatch h

@[simp] theorem not_crashed_failed (fault : ε) :
    ¬ Crashed (.error (.failed fault) : Except (Abort ε) α) :=
  fun ⟨_, h⟩ => nomatch h

@[simp] theorem crashed_crashed (text : String) :
    Crashed (.error (.crashed text) : Except (Abort ε) α) :=
  ⟨text, rfl⟩

theorem crashed_map_iff (f : ε → ε') (abort : Abort ε) :
    Crashed (.error (abort.map f) : Except (Abort ε') β) ↔
      Crashed (.error abort : Except (Abort ε) α) := by
  cases abort <;> simp [Abort.map]

theorem crashed_map_outcome_iff (f : α → β) (outcome : Except (Abort ε) α) :
    Crashed (outcome.map f) ↔ Crashed outcome := by
  cases outcome with
  | ok a => simp [Except.map]
  | error abort => cases abort <;> simp [Except.map]

instance : DecidablePred (Crashed (ε := ε) (α := α)) := fun outcome =>
  match outcome with
  | .ok a => .isFalse (not_crashed_ok a)
  | .error (.failed fault) => .isFalse (not_crashed_failed fault)
  | .error (.crashed text) => .isTrue (crashed_crashed text)

end Crashed

namespace Rpc

def Request.isPoll : Request → Bool
  | .getSignatureStatuses _ => true
  | _ => false

/-- The last reply of an exchange is one that brings the program down. -/
inductive Exchanged.Fatal (e : Exchanged) : Prop where
  /-- Its status says neither that the request succeeded nor that it failed. -/
  | status (success : ¬(200 ≤ e.exchange.status ∧ e.exchange.status < 300))
      (failure : ¬(400 ≤ e.exchange.status ∧ e.exchange.status < 600))
  /-- Its body is JSON, but neither null nor an object. -/
  | noPlace (reply : Json) (success : 200 ≤ e.exchange.status ∧ e.exchange.status < 300)
      (body : Json.read (e.exchange.content e.request) = .ok reply) (null : reply ≠ .null)
      (object : ∀ members, reply ≠ .object members)
  /-- Asked for the status of a signature, it has a list of none. -/
  | noStatus (signature : Signature) (result : Json)
      (request : e.request = .getSignatureStatuses signature) (answer : e.answer? = some result)
      (empty : inContext (Json.Shape.list (Json.Shape.nullable status)) none result = .ok [])

/-! ## Exchanges -/

/-- A result is a crash for want of a known status, or of a place in the reply. -/
theorem Exchange.crashed_result_iff (x : Exchange) (url : String) (request : Request) :
    Crashed (x.result url request) ↔
      (¬(200 ≤ x.status ∧ x.status < 300) ∧ ¬(400 ≤ x.status ∧ x.status < 600)) ∨
      ∃ reply, (200 ≤ x.status ∧ x.status < 300) ∧ Json.read (x.content request) = .ok reply ∧
        reply ≠ .null ∧ ∀ members, reply ≠ .object members := by
  unfold result
  by_cases hsuccess : 200 ≤ x.status ∧ x.status < 300
  · rw [if_pos hsuccess]
    cases hread : Json.read (x.content request) with
    | error error => simp [hsuccess]
    | ok reply =>
      have hreply : Crashed (resultOf reply) ↔
          reply ≠ .null ∧ ∀ members, reply ≠ .object members := by
        cases reply with
        | object members =>
          simp only [resultOf]
          split <;> simp
        | _ => simp [resultOf]
      simp [hsuccess, hreply]
  · rw [if_neg hsuccess]
    by_cases hfailure : 400 ≤ x.status ∧ x.status < 600
    · simp [hsuccess, hfailure]
    · simp [hsuccess, hfailure]

theorem Exchanged.fatal_iff (e : Exchanged) (url : String) :
    e.Fatal ↔ Crashed (e.exchange.result url e.request) ∨
      ∃ signature result, e.request = .getSignatureStatuses signature ∧ e.answer? = some result ∧
        inContext (Json.Shape.list (Json.Shape.nullable Rpc.status)) none result = .ok [] := by
  rw [Exchange.crashed_result_iff]
  constructor
  · intro h
    cases h with
    | status success failure => exact .inl (.inl ⟨success, failure⟩)
    | noPlace reply success body null object =>
      exact .inl (.inr ⟨reply, success, body, null, object⟩)
    | noStatus signature result request answer empty =>
      exact .inr ⟨signature, result, request, answer, empty⟩
  · rintro ((⟨success, failure⟩ | ⟨reply, success, body, null, object⟩) |
      ⟨signature, result, request, answer, empty⟩)
    · exact .status success failure
    · exact .noPlace reply success body null object
    · exact .noStatus signature result request answer empty

theorem Exchanged.fatal_iff_of_not_isPoll {e : Exchanged} (h : e.request.isPoll = false)
    (url : String) : e.Fatal ↔ Crashed (e.exchange.result url e.request) := by
  rw [e.fatal_iff url]
  refine or_iff_left ?_
  rintro ⟨signature, result, hrequest, -, -⟩
  rw [hrequest] at h
  cases h

/-- A node that has nothing more to say crashes nothing. -/
theorem not_fatal_spent (request : Request) : ¬ Exchanged.Fatal ⟨request, .spent⟩ := by
  have hresult : ¬ Crashed (Exchange.spent.result "" .getVersion) := by decide +kernel
  rw [Exchanged.fatal_iff _ ""]
  rintro (hcrashed | ⟨signature, result, -, hanswer, -⟩)
  · exact hresult hcrashed
  · rw [Exchanged.answer?, Exchange.toOption_result_spent] at hanswer
    cases hanswer

/-! ## Calls -/

/-- The outcome is a crash if one of the replies is fatal, and only then, unless there were as many
polls as can be counted. -/
structure Withstands {ε α : Type} (added : List Exchanged) (outcome : Except (Abort ε) α) :
    Prop where
  crashes : ∀ e ∈ added, e.Fatal → Crashed outcome
  cause : Crashed outcome →
    (∃ e ∈ added, e.Fatal) ∨ Wait.pollLimit ≤ added.countP (·.request.isPoll) + 1

namespace Withstands

variable {ε ε' α β : Type} {added before : List Exchanged}

theorem of_nil {outcome : Except (Abort ε) α} (h : ¬ Crashed outcome) : Withstands [] outcome :=
  ⟨nofun, fun hcrashed => absurd hcrashed h⟩

theorem of_crashed_iff {outcome : Except (Abort ε) α} {outcome' : Except (Abort ε') β}
    (h : Withstands added outcome) (hiff : Crashed outcome ↔ Crashed outcome') :
    Withstands added outcome' :=
  ⟨fun e he hfatal => hiff.1 (h.crashes e he hfatal), fun hcrashed => h.cause (hiff.2 hcrashed)⟩

theorem append {a : α} {outcome : Except (Abort ε) β} (h : Withstands (ε := ε) before (.ok a))
    (h' : Withstands added outcome) : Withstands (before ++ added) outcome := by
  refine ⟨fun e he hfatal => ?_, fun hcrashed => ?_⟩
  · rcases List.mem_append.1 he with he | he
    · exact absurd (h.crashes e he hfatal) (not_crashed_ok a)
    · exact h'.crashes e he hfatal
  · rw [List.countP_append]
    rcases h'.cause hcrashed with ⟨e, he, hfatal⟩ | hlimit
    · exact .inl ⟨e, List.mem_append_right _ he, hfatal⟩
    · exact .inr (by omega)

theorem composes : Composes (·.isPoll = false) fun _ added outcome => Withstands added outcome where
  queries request h := by cases request <;> first | rfl | cases h
  exchange request x url h := by
    have hfatal := Exchanged.fatal_iff_of_not_isPoll (e := ⟨request, x⟩) h url
    refine ⟨fun e he hfatal' => ?_,
      fun hcrashed => .inl ⟨_, List.mem_singleton_self _, hfatal.2 hcrashed⟩⟩
    rw [List.mem_singleton.1 he] at hfatal'
    exact hfatal.1 hfatal'
  ok _ a := .of_nil (not_crashed_ok a)
  failed _ fault := .of_nil (not_crashed_failed fault)
  error _ _ _ abort h := h.of_crashed_iff (by cases abort <;> simp)
  blaming _ _ abort reason h := h.of_crashed_iff (crashed_map_iff reason abort).symm
  append _ _ _ _ _ _ h h' := h.append h'

end Withstands

/-! ## Confirmations -/

namespace Client

variable (c : Client) {url : String} {signature : Signature}

/-- A status, even null, decides the look. -/
theorem lookAt_cons_ne_unanswered (status : Option Status) (rest : List (Option Status))
    (abort : Abort LedgerFault) : c.lookAt (status :: rest) ≠ .unanswered abort := by
  cases status with
  | none => exact nofun
  | some status =>
    rw [lookAt]
    split
    · split <;> exact nofun
    · exact nofun

theorem look_crashed_iff {x : Exchange} :
    (∃ text, c.look url signature x = .unanswered (.crashed text)) ↔
      Exchanged.Fatal ⟨.getSignatureStatuses signature, x⟩ := by
  rw [Exchanged.fatal_iff _ url, look, Exchanged.answer?, Exchange.toOption_result x "" url]
  cases hresult : x.result url (.getSignatureStatuses signature) with
  | error abort => cases abort <;> simp [Except.toOption]
  | ok result =>
    cases hstatuses : inContext (Json.Shape.list (Json.Shape.nullable status)) none result with
    | error misfit => simp [Except.toOption, hstatuses]
    | ok statuses =>
      cases statuses with
      | nil => simp [Except.toOption, hstatuses, lookAt]
      | cons status rest =>
        simp [Except.toOption, hstatuses, c.lookAt_cons_ne_unanswered]

end Client

/-- What a turn that ends a wait does to its polls, and when it is a crash. -/
theorem Wait.Decides.crashed {w : Wait} {polls elapsed : Nat} {flag : Bool} {look : Look}
    {e : Ending} (h : w.Decides polls ⟨flag, look, elapsed⟩ (some e)) :
    (e.polls = polls ∧ (Crashed e.outcome → polls + 1 = pollLimit)) ∨
      e.polls = polls + 1 ∧
        (Crashed e.outcome ↔ ∃ text, look = .unanswered (.crashed text)) := by
  cases h with
  | interrupted => exact .inl ⟨rfl, fun h => absurd h (not_crashed_failed _)⟩
  | overflowed _ _ limit => exact .inl ⟨rfl, fun _ => limit⟩
  | landed => exact .inr ⟨rfl, by simp⟩
  | failed fault => exact .inr ⟨rfl, by simp⟩
  | unanswered abort => exact .inr ⟨rfl, by cases abort <;> simp⟩
  | expired => exact .inr ⟨rfl, by simp [Wait.expired]⟩

namespace Client

variable {c : Client} {w : Wait} {url : String} {flag : Bool} {elapsed : Nat} {xs : List Exchange}

/-- The exchanges that a wait has looked at, and whether it is a crash. -/
theorem crashed_of_ending {polls : Nat} {e : Ending}
    (h : (w.ending polls (c.turns url w.signature flag elapsed xs)).getD
      (lastEnding w url (polls + xs.length) (flag || xs.any (·.raised))) = e) :
    ∃ n, e.polls = polls + n ∧
      let seen := xs.take n ++ List.replicate (n - xs.length) .spent
      (∀ x ∈ seen, Exchanged.Fatal ⟨.getSignatureStatuses w.signature, x⟩ → Crashed e.outcome) ∧
      (Crashed e.outcome →
        (∃ x ∈ seen, Exchanged.Fatal ⟨.getSignatureStatuses w.signature, x⟩) ∨
          polls + n + 1 = Wait.pollLimit) := by
  induction xs generalizing polls flag elapsed with
  | nil =>
    change lastEnding w url polls (flag || false) = e at h
    rw [Bool.or_false] at h
    subst h
    cases flag with
    | true => exact ⟨0, rfl, nofun, fun h => absurd h (not_crashed_failed _)⟩
    | false =>
      have hspent := not_fatal_spent (.getSignatureStatuses w.signature)
      have hresult : ¬ Crashed (lastEnding w url polls false).outcome := by
        rw [lastEnding, if_neg Bool.false_ne_true, crashed_map_outcome_iff]
        exact fun h => hspent ((Exchanged.fatal_iff _ url).2 (.inl h))
      exact ⟨1, rfl, by simp [hspent], fun h => absurd h hresult⟩
  | cons x xs ih =>
    unfold turns Wait.ending at h
    have hdecides := w.decides polls ⟨flag, c.look url w.signature x, elapsed + x.delay⟩
    cases hdecide : w.decide polls ⟨flag, c.look url w.signature x, elapsed + x.delay⟩ with
    | some e' =>
      rw [hdecide] at hdecides
      simp only [hdecide, Option.getD_some] at h
      subst h
      rcases hdecides.crashed with ⟨hpolls, hlimit⟩ | ⟨hpolls, hcrashed⟩
      · exact ⟨0, hpolls, by simp, fun h => .inr (hlimit h)⟩
      · rw [c.look_crashed_iff] at hcrashed
        exact ⟨1, hpolls, by simp [hcrashed], fun h => .inl ⟨x, by simp, hcrashed.1 h⟩⟩
    | none =>
      rw [hdecide] at hdecides
      obtain ⟨rfl, hlook, -⟩ := hdecides.of_none
      simp only [hdecide, List.length_cons, List.any_cons, Bool.false_or] at h
      -- The rest of the wait begins one poll later.
      rw [Nat.add_comm xs.length, ← Nat.add_assoc] at h
      obtain ⟨n, hpolls, hcrashes, hcause⟩ := ih h
      have hx : ¬ Exchanged.Fatal ⟨.getSignatureStatuses w.signature, x⟩ := by
        rw [← c.look_crashed_iff, hlook]
        rintro ⟨text, htext⟩
        cases htext
      refine ⟨n + 1, by omega, ?_⟩
      rw [List.take_succ_cons, List.length_cons, Nat.add_sub_add_right, List.cons_append]
      refine ⟨fun y hy hfatal => ?_, fun h => ?_⟩
      · rcases List.mem_cons.1 hy with rfl | hy
        · exact absurd hfatal hx
        · exact hcrashes y hy hfatal
      · rcases hcause h with ⟨y, hy, hfatal⟩ | hlimit
        · exact .inl ⟨y, List.mem_cons_of_mem x hy, hfatal⟩
        · exact .inr (by omega)

theorem crashed_ending {session : Session} :
    let e := c.ending w session
    let fatal := ∃ x ∈ session.upcoming e.polls,
      Exchanged.Fatal ⟨.getSignatureStatuses w.signature, x⟩
    (fatal → Crashed e.outcome) ∧
      (Crashed e.outcome → fatal ∨ e.polls + 1 = Wait.pollLimit) := by
  cases hreach : c.reach with
  | error refusal =>
    -- A node that cannot be reached is not polled at all.
    have hnone : ∀ e : Ending, e.polls = 0 → ¬ Crashed e.outcome →
        let fatal := ∃ x ∈ session.upcoming e.polls,
          Exchanged.Fatal ⟨.getSignatureStatuses w.signature, x⟩
        (fatal → Crashed e.outcome) ∧
          (Crashed e.outcome → fatal ∨ e.polls + 1 = Wait.pollLimit) := by
      intro e hpolls hcrashed
      simp [hpolls, hcrashed]
    refine hnone _ ?_ ?_
    · simp only [ending, hreach]
      split <;> rfl
    · simp only [ending, hreach]
      split <;> exact not_crashed_failed _
  | ok url =>
    have hending : c.ending w session =
        (w.ending 0 (c.turns url w.signature session.flag 0 session.exchanges)).getD
          (lastEnding w url (0 + session.exchanges.length)
            (session.flag || session.exchanges.any (·.raised))) := by
      simp only [ending, hreach, Nat.zero_add]
    obtain ⟨n, hpolls, hcrashes, hcause⟩ := crashed_of_ending hending.symm
    rw [Nat.zero_add] at hpolls hcause
    rw [← hpolls] at hcrashes hcause
    refine ⟨?_, hcause⟩
    rintro ⟨x, hx, hfatal⟩
    exact hcrashes x hx hfatal

/-- A confirmation is a crash after a fatal reply, or where its polls cannot be counted. -/
theorem adds_confirm_withstands (c : Client) (signature : Signature) :
    Adds (fun added outcome => Withstands added outcome) (c.confirm signature) := by
  intro session
  let e := c.ending ⟨signature, c.confirmation.timeout⟩ session
  let xs := session.upcoming e.polls
  obtain ⟨hcrashes, hcause⟩ : (_ → Crashed e.outcome) ∧ (Crashed e.outcome → _) :=
    c.crashed_ending
  have hcount : (xs.map (Exchanged.mk (.getSignatureStatuses signature))).countP
      (·.request.isPoll) = e.polls := by
    rw [List.countP_eq_length.2, List.length_map, session.length_upcoming]
    intro exchanged hmem
    obtain ⟨x, -, rfl⟩ := List.mem_map.1 hmem
    rfl
  rw [c.run_confirm]
  refine ⟨xs.map (⟨.getSignatureStatuses signature, ·⟩), rfl, ?_, fun hcrashed => ?_⟩
  · intro exchanged hmem hfatal
    obtain ⟨x, hx, rfl⟩ := List.mem_map.1 hmem
    exact hcrashes ⟨x, hx, hfatal⟩
  · rcases hcause hcrashed with ⟨x, hx, hfatal⟩ | hlimit
    · exact .inl ⟨_, List.mem_map_of_mem hx, hfatal⟩
    · exact .inr (by rw [hcount]; exact hlimit.ge)

theorem adds_perform_withstands (c : Client) (call : Call) :
    Adds (fun added outcome => Withstands added outcome) (c.perform call) := by
  cases call with
  | handshake => exact Withstands.composes.adds_versionText c
  | fee => exact Withstands.composes.adds_fee c
  | airdrop account lamports => exact Withstands.composes.adds_airdrop c fun _ => rfl
  | confirm signature => exact c.adds_confirm_withstands signature
  | blockhash => exact Withstands.composes.adds_blockhash c
  | send transaction => exact Withstands.composes.adds_send c fun _ _ => rfl

end Client

end Rpc

/-! ## Runs -/

/-- A run is a crash if the last of its calls is. -/
theorem Along.crashed_iff {final result : Probe.Result} {legs : List Leg} {history : List Event}
    {flag : Bool} (h : Along final legs history result flag) (hfinal : ¬ Crashed final) :
    Crashed result ↔ ∃ event ∈ history, Crashed event.2 := by
  induction h with
  | arrived flag => simp [hfinal]
  | stopped legs step => simp
  | failed leg legs abort flag => simp [crashed_map_iff (α := leg.call.Answer)]
  | answered leg rest ih => simp [ih, Leg.event]

theorem Itinerary.Planned.not_crashed {config : Config} {around : Surroundings} {it : Itinerary}
    (h : Planned config around it) : ¬ Crashed it.result := by
  cases h <;> simp

namespace Rpc

theorem Withstands.of_pieces {history : List Event} {pieces : List (List Exchanged)}
    (h : List.Forall₂ (fun event added => Withstands added event.2) history pieces) :
    (∀ e ∈ pieces.flatten, e.Fatal → ∃ event ∈ history, Crashed event.2) ∧
      ((∃ event ∈ history, Crashed event.2) →
        (∃ e ∈ pieces.flatten, e.Fatal) ∨
          Wait.pollLimit ≤ pieces.flatten.countP (·.request.isPoll) + 1) := by
  induction h with
  | nil => simp
  | @cons event added history pieces hevent _ ih =>
    -- The polls of all the calls are no fewer than those of the one that could not count its own.
    rw [List.flatten_cons, List.countP_append]
    refine ⟨fun e he hfatal => ?_, fun ⟨event', hmem, hcrashed⟩ => ?_⟩
    · rcases List.mem_append.1 he with he | he
      · exact ⟨event, List.mem_cons_self, hevent.crashes e he hfatal⟩
      · obtain ⟨event', hmem, hcrashed⟩ := ih.1 e he hfatal
        exact ⟨event', List.mem_cons_of_mem event hmem, hcrashed⟩
    · rcases List.mem_cons.1 hmem with rfl | hmem
      · rcases hevent.cause hcrashed with ⟨e, he, hfatal⟩ | hlimit
        · exact .inl ⟨e, List.mem_append_left _ he, hfatal⟩
        · exact .inr (by omega)
      · rcases ih.2 ⟨event', hmem, hcrashed⟩ with ⟨e, he, hfatal⟩ | hlimit
        · exact .inl ⟨e, List.mem_append_right _ he, hfatal⟩
        · exact .inr (by omega)

end Rpc

namespace Program

/-- A call, and with it a whole probe, is a crash if one of the replies is fatal, and for no other
reply, unless as many polls were made as can be counted. -/
theorem interruptedProbe_withstands (config : Config) (listens : String × Nat → Bool)
    (around : Surroundings) (replies : List Rpc.Reply) (flag : Bool) (moments : Interrupts) :
    let c := client config listens
    let p := interruptedProbe config listens around replies flag moments
    (∀ call, Rpc.Adds (fun added outcome => Rpc.Withstands added outcome) (c.perform call)) ∧
      Rpc.Withstands p.state.1.log.reverse p.result := by
  intro c p
  refine ⟨c.adds_perform_withstands, ?_⟩
  obtain ⟨pieces, hlog, hpieces⟩ := exists_pieces_of_adds config listens around replies flag moments
    (fun event added => Rpc.Withstands added event.2) c.adds_perform_withstands
  obtain ⟨it, hit, along⟩ := Probe.exists_along_run config around
    (c.ledger.interrupted moments) ({ exchanges := Rpc.Exchange.ofReplies replies, flag }, 0) flag
  have hresult := along.crashed_iff hit.not_crashed
  obtain ⟨hcrashes, hcause⟩ := Rpc.Withstands.of_pieces hpieces
  rw [hlog]
  exact ⟨fun e he hfatal => hresult.2 (hcrashes e he hfatal), fun h => hcause (hresult.1 h)⟩

/-- A node that takes an airdrop and then has no status for it. -/
def lostAirdrop : List Rpc.Reply :=
  repliesOf [.string "1111111111111111111111111111111111111111111111111111111111111111",
    .object [("context", .object [("slot", .ofNat 1)]), ("value", .array [])]]

def isObject (reply : Rpc.Reply) : Bool :=
  match Json.read (reply.body .getVersion) with
  | .ok (.object _) => true
  | _ => false

/-- Every reply is a JSON object, and the probe crashes. -/
theorem interruptedProbe_crashes_on_no_status :
    lostAirdrop.all isObject = true ∧
    Crashed (interruptedProbe { endpoint := "http://[::1]" } (fun _ => true)
      ⟨fun _ => .error .notFound, .ofSeed (.replicate 32 0)⟩ lostAirdrop false .none).result := by
  constructor
  · decide +kernel
  · decide +kernel

end Program

end ClusterProbe
