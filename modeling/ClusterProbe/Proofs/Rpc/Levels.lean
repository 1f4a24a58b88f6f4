import ClusterProbe.Proofs.Rpc.Turns
import Mathlib.Data.List.Forall2

/-!
# Waiting for weaker levels

Where the statuses that a node shows are consistent, a weaker level of commitment is satisfied by
every status that satisfies a stronger one.  So a wait for the weaker level, with the same replies,
flag and clock, never takes longer: in each turn it decides the same, or a status ends it first.
-/

namespace ClusterProbe

/-- The place of a level among all, weakest first. -/
def Commitment.rank : Commitment → Nat
  | .processed => 0
  | .confirmed => 1
  | .finalized => 2

namespace Rpc

/-! ## Statuses -/

namespace Status

/-- Only a status that is rooted by its own level, if it has one, has no count of confirmations. -/
def Consistent (s : Status) : Prop :=
  s.confirmations = none → s.level = none ∨ s.level = some .finalized

instance (s : Status) : Decidable s.Consistent := inferInstanceAs (Decidable (_ → _))

/-- What a look at a status shows at a level of commitment. -/
def look (s : Status) (level : Commitment) : Look :=
  if s.satisfies level then
    match s.fault with
    | none => .landed
    | some fault => .failed fault
  else .pending

theorem Consistent.satisfies_of_le {s : Status} (h : s.Consistent) {weak strong : Commitment}
    (hle : weak.rank ≤ strong.rank) (hs : s.satisfies strong = true) :
    s.satisfies weak = true := by
  -- Only a status that is final has to be looked at again.
  have hconfirmed : s.satisfies .finalized = true → s.satisfies .confirmed = true := by
    intro hfinal
    have hrooted : s.confirmations = none := Option.isNone_iff_eq_none.1 hfinal
    rcases h hrooted with hlevel | hlevel <;> simp [satisfies, hrooted, hlevel]
  cases weak with
  | processed => rfl
  | confirmed =>
    cases strong with
    | processed => exact absurd hle (by decide)
    | confirmed => exact hs
    | finalized => exact hconfirmed hs
  | finalized =>
    cases strong with
    | finalized => exact hs
    | _ => exact absurd hle (by decide)

end Status

/-! ## Looks and turns -/

/-- An outcome of a wait that a status ended: the transaction has landed, or failed. -/
def isVerdict : Except (Abort LedgerFault) Unit → Bool
  | .ok () => true
  | .error (.failed (.transaction _)) => true
  | .error _ => false

namespace Look

/-- How a look ends a wait on account of a status, if it does. -/
def verdict? : Look → Option (Except (Abort LedgerFault) Unit)
  | landed => some (.ok ())
  | failed fault => some (.error (.failed (.transaction fault)))
  | pending => none
  | unanswered _ => none

theorem isVerdict_of_verdict? {look : Look} {outcome : Except (Abort LedgerFault) Unit}
    (h : look.verdict? = some outcome) : isVerdict outcome = true := by
  cases look with
  | landed =>
    cases h
    rfl
  | failed fault =>
    cases h
    rfl
  | pending => cases h
  | unanswered abort => cases h

/-- A look shows the same as another, or what became of the transaction where that shows nothing
yet. -/
def Sooner (look late : Look) : Prop := look = late ∨ late = .pending ∧ look.verdict?.isSome

end Look

theorem Status.Consistent.sooner {s : Status} (h : s.Consistent) {weak strong : Commitment}
    (hle : weak.rank ≤ strong.rank) : (s.look weak).Sooner (s.look strong) := by
  by_cases hstrong : s.satisfies strong = true
  · have hweak := h.satisfies_of_le hle hstrong
    exact .inl (by rw [look, look, if_pos hweak, if_pos hstrong])
  · have hlate : s.look strong = .pending := if_neg hstrong
    by_cases hweak : s.satisfies weak = true
    · refine .inr ⟨hlate, ?_⟩
      rw [look, if_pos hweak]
      cases s.fault <;> rfl
    · exact .inl ((if_neg hweak).trans hlate.symm)

/-- A turn with the same flag and clock as another, whose look shows as much or more. -/
structure Turn.Sooner (turn late : Turn) : Prop where
  flag : turn.flag = late.flag
  look : turn.look.Sooner late.look
  elapsed : turn.elapsed = late.elapsed

namespace Wait

variable {w : Wait} {polls : Nat}

/-- With the flag down and the poll counted, a look that shows what became of the transaction ends
the wait. -/
theorem decide_of_verdict? {turn : Turn} {outcome : Except (Abort LedgerFault) Unit}
    (hflag : turn.flag = false) (hlimit : polls + 1 ≠ pollLimit)
    (h : turn.look.verdict? = some outcome) :
    w.decide polls turn = some ⟨polls + 1, outcome⟩ := by
  obtain ⟨flag, look, elapsed⟩ := turn
  obtain rfl : flag = false := hflag
  cases look with
  | landed =>
    cases h
    simp [decide, hlimit]
  | failed fault =>
    cases h
    simp [decide, hlimit]
  | pending => cases h
  | unanswered abort => cases h

/-- A turn that shows more does to a wait what the other does, or ends it by a status; the other
then leaves the wait to go on, unless the time is up. -/
theorem decide_sooner {turn late : Turn} (h : turn.Sooner late) :
    w.decide polls turn = w.decide polls late ∨
      ∃ outcome, turn.look.verdict? = some outcome ∧
        w.decide polls turn = some ⟨polls + 1, outcome⟩ ∧
        ∀ e, w.decide polls late = some e → e.polls = polls + 1 := by
  obtain ⟨flag, look, elapsed⟩ := turn
  obtain ⟨flag', late, elapsed'⟩ := late
  obtain ⟨rfl : flag = flag', hlook : look.Sooner late, rfl : elapsed = elapsed'⟩ := h
  rcases hlook with rfl | ⟨rfl, hverdict⟩
  · exact .inl rfl
  -- The flag and the count of the polls come before the look.
  by_cases hfirst : flag = true ∨ polls + 1 = pollLimit
  · left
    rcases hfirst with hflag | hlimit
    · simp [decide, hflag]
    · simp [decide, hlimit]
  · right
    rw [not_or, Bool.not_eq_true] at hfirst
    obtain ⟨hflag, hlimit⟩ := hfirst
    obtain ⟨outcome, houtcome⟩ := Option.isSome_iff_exists.1 hverdict
    refine ⟨outcome, houtcome, decide_of_verdict? hflag hlimit houtcome, fun e he => ?_⟩
    have hdecides := w.decides polls ⟨flag, .pending, elapsed⟩
    rw [he, hflag] at hdecides
    cases hdecides with
    | overflowed _ _ limit => exact absurd limit hlimit
    | expired _ _ => rfl

theorem le_polls_of_decide {turn : Turn} {e : Ending} (h : w.decide polls turn = some e) :
    polls ≤ e.polls := by
  have hdecides := w.decides polls turn
  rw [h] at hdecides
  cases hdecides <;> simp [interrupted, expired]

theorem le_polls_of_ending {turns : List Turn} {e : Ending} (h : w.ending polls turns = some e) :
    polls ≤ e.polls := by
  induction turns generalizing polls with
  | nil => cases h
  | cons turn rest ih =>
    unfold ending at h
    cases hdecide : w.decide polls turn with
    | some e' =>
      rw [hdecide] at h
      cases h
      exact le_polls_of_decide hdecide
    | none =>
      rw [hdecide] at h
      exact Nat.le_of_succ_le (ih h)

/-- Turns that show more end a wait as the others do, or a status ends it no later than they do. -/
theorem ending_sooner (w : Wait) (polls : Nat) {turns lates : List Turn}
    (h : List.Forall₂ Turn.Sooner turns lates) :
    w.ending polls turns = w.ending polls lates ∨
      ∃ turn ∈ turns, ∃ outcome n, turn.look.verdict? = some outcome ∧
        w.ending polls turns = some ⟨n, outcome⟩ ∧ n ≤ polls + turns.length ∧
        ∀ e, w.ending polls lates = some e → n ≤ e.polls := by
  -- Turns that decide the same leave the wait to the rest; the first one that does not ends it.
  induction h generalizing polls with
  | nil => exact .inl rfl
  | @cons turn late turns lates hturn _ ih =>
    unfold ending
    rw [List.length_cons]
    rcases decide_sooner hturn with hsame | ⟨outcome, hverdict, hdecide, hpolls⟩
    · rw [hsame]
      cases hdecide : w.decide polls late with
      | some e => exact .inl rfl
      | none =>
        rcases @ih (polls + 1) with
          hrest | ⟨turn', hmem, outcome, n, hverdict, hending, hn, hle⟩
        · exact .inl hrest
        · exact .inr ⟨turn', List.mem_cons_of_mem _ hmem, outcome, n, hverdict, hending, by omega,
            hle⟩
    · -- The others can end no sooner than with the poll of this very turn.
      refine .inr ⟨turn, List.mem_cons_self, outcome, polls + 1, hverdict, by rw [hdecide],
        by omega, fun e he => ?_⟩
      cases hlate : w.decide polls late with
      | some e' =>
        rw [hlate] at he
        cases he
        exact (hpolls e hlate).ge
      | none =>
        rw [hlate] at he
        exact le_polls_of_ending he

end Wait

/-! ## Clients with different levels -/

/-- The status of the transaction that a reply to a poll shows, if it shows one. -/
def Exchange.shown? (x : Exchange) (signature : Signature) : Option Status := do
  let result ← Exchanged.answer? ⟨.getSignatureStatuses signature, x⟩
  let statuses ←
    (inContext (Json.Shape.list (Json.Shape.nullable Rpc.status)) none result).toOption
  statuses.head?.join

/-- What a wait reads in one turn: the flag, a reply to a poll, and the clock. -/
structure Reading where
  flag : Bool
  exchange : Exchange
  elapsed : Nat

namespace Client

variable (c : Client) (url : String) (signature : Signature)

/-- The client with another level of commitment. -/
def withLevel (level : Commitment) : Client :=
  { c with confirmation := { c.confirmation with level } }

/-- The turn in which a wait reads something. -/
def turnOf (r : Reading) : Turn := ⟨r.flag, c.look url signature r.exchange, r.elapsed⟩

/-- How a wait ends with some readings, if it does. -/
def endingOf (w : Wait) (readings : List Reading) : Option Ending :=
  w.ending 0 (readings.map (c.turnOf url w.signature))

/-- What a wait reads in its turns with some exchanges, if none of them ends it. -/
def readings (flag : Bool) (elapsed : Nat) : List Exchange → List Reading
  | [] => []
  | x :: rest =>
    let elapsed := elapsed + x.delay
    ⟨flag, x, elapsed⟩ ::
      readings (flag || x.raised) (elapsed + c.confirmation.interval.toNanos) rest

/-- A level decides only how the turns are judged, and not what is read in them. -/
theorem turns_withLevel (level : Commitment) (flag : Bool) (elapsed : Nat) (xs : List Exchange) :
    (c.withLevel level).turns url signature flag elapsed xs =
      (c.readings flag elapsed xs).map ((c.withLevel level).turnOf url signature) := by
  induction xs generalizing flag elapsed with
  | nil => rfl
  | cons x rest ih =>
    rw [turns, readings, List.map_cons]
    exact congrArg _ (ih _ _)

theorem exchange_mem_of_mem_readings {flag : Bool} {elapsed : Nat} {xs : List Exchange}
    {r : Reading} (h : r ∈ c.readings flag elapsed xs) : r.exchange ∈ xs := by
  induction xs generalizing flag elapsed with
  | nil => cases h
  | cons x rest ih =>
    rcases List.mem_cons.1 h with rfl | h
    · exact List.mem_cons_self
    · exact List.mem_cons_of_mem _ (ih h)

theorem length_readings (flag : Bool) (elapsed : Nat) (xs : List Exchange) :
    (c.readings flag elapsed xs).length = xs.length := by
  induction xs generalizing flag elapsed with
  | nil => rfl
  | cons x rest ih => rw [readings, List.length_cons, List.length_cons, ih]

/-- A look shows a status as its level judges it, or the same at every level, and then nothing of
the transaction. -/
theorem look_withLevel (x : Exchange) :
    (∃ s, x.shown? signature = some s ∧
      ∀ level, (c.withLevel level).look url signature x = s.look level) ∨
    ∃ look : Look, look.verdict? = none ∧
      ∀ level, (c.withLevel level).look url signature x = look := by
  have hanswer : Exchanged.answer? ⟨.getSignatureStatuses signature, x⟩ =
      (x.result url (.getSignatureStatuses signature)).toOption :=
    Exchange.toOption_result x "" url _
  unfold Exchange.shown? look
  rw [hanswer]
  cases hresult : x.result url (.getSignatureStatuses signature) with
  | error abort => exact .inr ⟨.unanswered abort, rfl, fun _ => rfl⟩
  | ok result =>
    dsimp only
    cases hstatuses : inContext (Json.Shape.list (Json.Shape.nullable Rpc.status)) none result with
    | error misfit => exact .inr ⟨.unanswered (.failed (.shape misfit)), rfl, fun _ => rfl⟩
    | ok statuses =>
      match statuses with
      | [] => exact .inr ⟨_, rfl, fun _ => rfl⟩
      | none :: _ => exact .inr ⟨.pending, rfl, fun _ => rfl⟩
      | some s :: _ => exact .inl ⟨s, by simp [Except.toOption, hstatuses], fun _ => rfl⟩

variable {c url signature}

/-- A weaker level turns a consistent reading into a turn that shows as much or more. -/
theorem turnOf_sooner {weak strong : Commitment} (hle : weak.rank ≤ strong.rank) {r : Reading}
    (hconsistent : ∀ s ∈ r.exchange.shown? signature, s.Consistent) :
    ((c.withLevel weak).turnOf url signature r).Sooner
      ((c.withLevel strong).turnOf url signature r) := by
  refine ⟨rfl, ?_, rfl⟩
  dsimp only [turnOf]
  rcases c.look_withLevel url signature r.exchange with ⟨s, hs, hlook⟩ | ⟨look, -, hlook⟩
  · rw [hlook, hlook]
    exact (hconsistent s hs).sooner hle
  · rw [hlook, hlook]
    exact .inl rfl

/-- A look ends a wait well unless the status that it shows is that of a failed transaction. -/
theorem eq_ok_of_verdict? {level : Commitment} {r : Reading}
    {outcome : Except (Abort LedgerFault) Unit}
    (h : ((c.withLevel level).turnOf url signature r).look.verdict? = some outcome)
    (hfault : ∀ s ∈ r.exchange.shown? signature, s.fault = none) : outcome = .ok () := by
  dsimp only [turnOf] at h
  rcases c.look_withLevel url signature r.exchange with ⟨s, hs, hlook⟩ | ⟨look, hnone, hlook⟩
  · rw [hlook, Status.look, hfault s hs] at h
    split at h
    · cases h
      rfl
    · cases h
  · rw [hlook, hnone] at h
    cases h

/-- With consistent readings, a weaker level ends a wait as a stronger one does, or a status ends it
no later. -/
theorem endingOf_withLevel {weak strong : Commitment} (hle : weak.rank ≤ strong.rank) (c : Client)
    (url : String) (w : Wait) (readings : List Reading)
    (hconsistent : ∀ r ∈ readings, ∀ s ∈ r.exchange.shown? w.signature, s.Consistent) :
    (c.withLevel weak).endingOf url w readings = (c.withLevel strong).endingOf url w readings ∨
      ∃ r ∈ readings, ∃ outcome n,
        ((c.withLevel weak).turnOf url w.signature r).look.verdict? = some outcome ∧
        (c.withLevel weak).endingOf url w readings = some ⟨n, outcome⟩ ∧ n ≤ readings.length ∧
        ∀ e, (c.withLevel strong).endingOf url w readings = some e → n ≤ e.polls := by
  have hturns : List.Forall₂ Turn.Sooner
      (readings.map ((c.withLevel weak).turnOf url w.signature))
      (readings.map ((c.withLevel strong).turnOf url w.signature)) := by
    rw [List.forall₂_map_left_iff, List.forall₂_map_right_iff, List.forall₂_same]
    exact fun r hr => turnOf_sooner hle (hconsistent r hr)
  rcases w.ending_sooner 0 hturns with
    hsame | ⟨turn, hmem, outcome, n, hverdict, hending, hn, hpolls⟩
  · exact .inl hsame
  · obtain ⟨r, hr, rfl⟩ := List.mem_map.1 hmem
    rw [List.length_map, Nat.zero_add] at hn
    exact .inr ⟨r, hr, outcome, n, hverdict, hending, hn, hpolls⟩

theorem ending_withLevel_of_reach (level : Commitment) (w : Wait) (session : Session)
    (hreach : c.reach = .ok url) :
    (c.withLevel level).ending w session =
      ((c.withLevel level).endingOf url w (c.readings session.flag 0 session.exchanges)).getD
        (lastEnding w url session.exchanges.length
          (session.flag || session.exchanges.any (·.raised))) := by
  have hreach' : (c.withLevel level).reach = .ok url := hreach
  rw [ending, hreach', endingOf, ← turns_withLevel]

theorem le_polls_lastEnding (w : Wait) (url : String) (polls : Nat) (flag : Bool) :
    polls ≤ (lastEnding w url polls flag).polls := by
  unfold lastEnding
  split
  · exact Nat.le_refl polls
  · exact Nat.le_succ polls

/-- With consistent exchanges to come, a weaker level ends a confirmation as a stronger one does, or
a status ends it no later. -/
theorem ending_withLevel {weak strong : Commitment} (hle : weak.rank ≤ strong.rank) (c : Client)
    (w : Wait) (session : Session)
    (hconsistent : ∀ x ∈ session.exchanges, ∀ s ∈ x.shown? w.signature, s.Consistent) :
    (c.withLevel weak).ending w session = (c.withLevel strong).ending w session ∨
      ∃ (r : Reading) (url : String), r.exchange ∈ session.exchanges ∧
        ((c.withLevel weak).turnOf url w.signature r).look.verdict? =
          some ((c.withLevel weak).ending w session).outcome ∧
        ((c.withLevel weak).ending w session).polls ≤
          ((c.withLevel strong).ending w session).polls := by
  cases hreach : c.reach with
  | error fault =>
    have hreach' (level : Commitment) : (c.withLevel level).reach = .error fault := hreach
    left
    rw [ending, ending, hreach', hreach']
  | ok url =>
    rw [ending_withLevel_of_reach weak w session hreach,
      ending_withLevel_of_reach strong w session hreach]
    have hreadings := c.endingOf_withLevel hle url w
      (c.readings session.flag 0 session.exchanges) fun r hr =>
        hconsistent _ (c.exchange_mem_of_mem_readings hr)
    rcases hreadings with hsame | ⟨r, hr, outcome, n, hverdict, hweak, hn, hpolls⟩
    · exact .inl (by rw [hsame])
    · rw [hweak, Option.getD_some]
      refine .inr ⟨r, url, c.exchange_mem_of_mem_readings hr, hverdict, ?_⟩
      rw [length_readings] at hn
      cases hstrong : (c.withLevel strong).endingOf url w
          (c.readings session.flag 0 session.exchanges) with
      | some e => exact hpolls e hstrong
      -- The stronger level has looked at everything that the node has to say.
      | none => exact Nat.le_trans hn (le_polls_lastEnding w url _ _)

/-- A confirmation over a session is ended by a status in the poll with a number. -/
def EndedByStatus (c : Client) (signature : Signature) (session : Session) (polls : Nat) : Prop :=
  ∃ outcome, isVerdict outcome = true ∧ (c.confirm signature).run.run session =
    (outcome, session.after (.getSignatureStatuses signature) (session.upcoming polls))

/-- The polls of a confirmation can be counted in the log. -/
theorem endedByStatus_iff (c : Client) (signature : Signature) (session : Session) (polls : Nat) :
    let e := c.ending ⟨signature, c.confirmation.timeout⟩ session
    c.EndedByStatus signature session polls ↔ isVerdict e.outcome = true ∧ e.polls = polls := by
  intro e
  unfold EndedByStatus
  rw [c.run_confirm]
  constructor
  · rintro ⟨outcome, hverdict, hrun⟩
    obtain ⟨rfl, hsession⟩ := Prod.mk.inj hrun
    have hlength := congrArg (·.log.length) hsession
    simp only [Session.after, List.length_append, List.length_reverse, List.length_map,
      Session.length_upcoming] at hlength
    exact ⟨hverdict, Nat.add_right_cancel hlength⟩
  · rintro ⟨hverdict, rfl⟩
    exact ⟨e.outcome, hverdict, rfl⟩

/-- A weaker level never waits longer.  With the same consistent replies, flag and clock, a wait
that ends at a level ends at a weaker one with no more polls; if a status has ended it, then a status
does so at the weaker level, and if it has succeeded and no status tells of a fault, then it succeeds
at the weaker level.  The same holds for confirmations over one session. -/
theorem confirm_sooner (c : Client) (signature : Signature) {weak strong : Commitment}
    (hle : weak.rank ≤ strong.rank) :
    let w : Wait := ⟨signature, c.confirmation.timeout⟩
    (∀ url readings, (∀ r ∈ readings, ∀ s ∈ r.exchange.shown? signature, s.Consistent) →
      ∀ e, (c.withLevel strong).endingOf url w readings = some e →
        ∃ e', (c.withLevel weak).endingOf url w readings = some e' ∧ e'.polls ≤ e.polls ∧
          (isVerdict e.outcome = true → isVerdict e'.outcome = true) ∧
          ((∀ r ∈ readings, ∀ s ∈ r.exchange.shown? signature, s.fault = none) →
            e.outcome = .ok () → e'.outcome = .ok ())) ∧
    ∀ session : Session, (∀ x ∈ session.exchanges, ∀ s ∈ x.shown? signature, s.Consistent) →
      (∀ k, (c.withLevel strong).EndedByStatus signature session k →
        ∃ j ≤ k, (c.withLevel weak).EndedByStatus signature session j) ∧
      ((∀ x ∈ session.exchanges, ∀ s ∈ x.shown? signature, s.fault = none) →
        (((c.withLevel strong).confirm signature).run.run session).1 = .ok () →
        (((c.withLevel weak).confirm signature).run.run session).1 = .ok ()) := by
  intro w
  refine ⟨fun url readings hconsistent e he => ?_, fun session hconsistent => ⟨?_, ?_⟩⟩
  · rcases c.endingOf_withLevel hle url w readings hconsistent with
      hsame | ⟨r, hr, outcome, n, hverdict, hweak, -, hpolls⟩
    · exact ⟨e, hsame.trans he, Nat.le_refl _, id, fun _ => id⟩
    · exact ⟨_, hweak, hpolls e he, fun _ => Look.isVerdict_of_verdict? hverdict,
        fun hfault _ => eq_ok_of_verdict? hverdict (hfault r hr)⟩
  · intro k hk
    obtain ⟨hended, rfl⟩ := ((c.withLevel strong).endedByStatus_iff signature session k).1 hk
    rcases c.ending_withLevel hle w session hconsistent with
      hsame | ⟨r, url, -, hverdict, hpolls⟩
    · refine ⟨_, Nat.le_refl _, (endedByStatus_iff _ _ _ _).2 ?_⟩
      change isVerdict ((c.withLevel weak).ending w session).outcome = true ∧
        ((c.withLevel weak).ending w session).polls = ((c.withLevel strong).ending w session).polls
      rw [hsame]
      exact ⟨hended, rfl⟩
    · exact ⟨_, hpolls,
        (endedByStatus_iff _ _ _ _).2 ⟨Look.isVerdict_of_verdict? hverdict, rfl⟩⟩
  · intro hfault hok
    rw [run_confirm] at hok ⊢
    rcases c.ending_withLevel hle w session hconsistent with hsame | ⟨r, url, hr, hverdict, -⟩
    · exact (congrArg Ending.outcome hsame).trans hok
    · exact eq_ok_of_verdict? hverdict (hfault _ hr)

theorem eq_ok_of_isOk {outcome : Except (Abort LedgerFault) Unit} (h : outcome.isOk = true) :
    outcome = .ok () := by
  cases outcome with
  | error abort => cases h
  | ok => rfl

/-- A reply to a poll that shows a transaction without a fault. -/
def showing (confirmations : Json) (level : Commitment) : Exchange :=
  let status : Json := .object [("slot", .ofNat 1), ("confirmations", confirmations),
    ("status", .object [("Ok", .null)]), ("confirmationStatus", .string level.name)]
  let result : Json :=
    .object [("context", .object [("slot", .ofNat 1)]), ("value", .array [status])]
  ⟨1, false, 0, 200, fun _ => Exchange.bodyOf (.object [("result", result)])⟩

/-- A transaction that is first processed, then confirmed, and final in the third poll. -/
theorem confirm_sooner_three :
    let c : Client := ⟨"http://[::1]", {}, fun _ => true⟩
    let signature : Signature := .replicate 64 0
    let w : Wait := ⟨signature, c.confirmation.timeout⟩
    let exchanges := [showing (.ofNat 0) .processed, showing (.ofNat 2) .confirmed,
      showing .null .finalized]
    let session : Session := { exchanges }
    let readings : List Reading := exchanges.map (⟨false, ·, 0⟩)
    (∀ x ∈ exchanges, ∀ s ∈ x.shown? signature, s.Consistent ∧ s.fault = none) ∧
    (∃ e, (c.withLevel .finalized).endingOf "" w readings = some e ∧ e.polls = 3 ∧
      ∃ e', (c.withLevel .confirmed).endingOf "" w readings = some e' ∧ e'.polls ≤ 3 ∧
        e'.outcome = .ok ()) ∧
    (c.withLevel .finalized).EndedByStatus signature session 3 ∧
    (∃ j ≤ 3, (c.withLevel .confirmed).EndedByStatus signature session j ∧
      ∃ i ≤ j, (c.withLevel .processed).EndedByStatus signature session i) ∧
    (((c.withLevel .processed).confirm signature).run.run session).1 = .ok () := by
  intro c signature w exchanges session readings
  have hshown : ∀ x ∈ exchanges, ∀ s ∈ x.shown? signature, s.Consistent ∧ s.fault = none := by
    decide +kernel
  have hconsistent := fun x hx s hs => (hshown x hx s hs).1
  have hfault := fun x hx s hs => (hshown x hx s hs).2
  have hread : ∀ r ∈ readings, r.exchange ∈ exchanges := by
    intro r hr
    obtain ⟨x, hx, rfl⟩ := List.mem_map.1 hr
    exact hx
  have hle : Commitment.confirmed.rank ≤ Commitment.finalized.rank := by decide
  have hle' : Commitment.processed.rank ≤ Commitment.confirmed.rank := by decide
  obtain ⟨hfinalReadings, hfinal⟩ := c.confirm_sooner signature hle
  obtain ⟨-, hconfirmed⟩ := c.confirm_sooner signature hle'
  have hthree : (c.withLevel .finalized).EndedByStatus signature session 3 :=
    (endedByStatus_iff _ _ _ _).2 (by decide +kernel)
  have hok : (((c.withLevel .confirmed).confirm signature).run.run session).1 = .ok () := by
    refine (hfinal session hconsistent).2 hfault (eq_ok_of_isOk ?_)
    rw [run_confirm]
    decide +kernel
  refine ⟨hshown, ?_, hthree, ?_, (hconfirmed session hconsistent).2 hfault hok⟩
  · have hending : ((c.withLevel .finalized).endingOf "" w readings).any
        (fun e => e.polls = 3 ∧ e.outcome.isOk) = true := by decide +kernel
    obtain ⟨e, he, hdecided⟩ := (Option.any_eq_true _ _).1 hending
    obtain ⟨hpolls, houtcome⟩ := of_decide_eq_true hdecided
    obtain ⟨e', he', hle, -, hok'⟩ := hfinalReadings "" readings
      (fun r hr => hconsistent _ (hread r hr)) e he
    exact ⟨e, he, hpolls, e', he', hle.trans_eq hpolls,
      hok' (fun r hr => hfault _ (hread r hr)) (eq_ok_of_isOk houtcome)⟩
  · obtain ⟨j, hj, hjended⟩ := (hfinal session hconsistent).1 3 hthree
    exact ⟨j, hj, hjended, (hconfirmed session hconsistent).1 j hjended⟩

end Client

end Rpc

end ClusterProbe
