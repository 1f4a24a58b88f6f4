import ClusterProbe.Proofs.Rpc.Causes
import Mathlib.Algebra.GroupWithZero.Nat

/-!
# The turn that ends a wait

A wait ends with its first decisive turn: one that begins with the flag up, or whose look shows
anything, or after which the time is up.  In that order they decide how it ends, and how many polls
it counts.
-/

namespace ClusterProbe.Rpc

namespace Wait

/-- A turn ends a wait: it begins with the flag up, or its look shows something, or the time is up
after it. -/
def Decisive (w : Wait) (turn : Turn) : Prop :=
  turn.flag = true ∨ turn.look ≠ .pending ∨ w.timeout.toNanos ≤ turn.elapsed

/-- How a wait ends with a decisive turn after some polls.  With the flag up there is no poll in the
turn, and the clock counts only where the look shows nothing. -/
inductive Ends (w : Wait) (polls : Nat) : Turn → Ending → Prop where
  | interrupted (look : Look) (elapsed : Nat) :
      Ends w polls ⟨true, look, elapsed⟩
        ⟨polls, .error (.failed (.waitInterrupted w.signature polls))⟩
  | landed (elapsed : Nat) : Ends w polls ⟨false, .landed, elapsed⟩ ⟨polls + 1, .ok ()⟩
  | failed (fault : TransactionFault) (elapsed : Nat) :
      Ends w polls ⟨false, .failed fault, elapsed⟩
        ⟨polls + 1, .error (.failed (.transaction fault))⟩
  | unanswered (abort : Abort LedgerFault) (elapsed : Nat) :
      Ends w polls ⟨false, .unanswered abort, elapsed⟩ ⟨polls + 1, .error abort⟩
  | expired (elapsed : Nat) (late : w.timeout.toNanos ≤ elapsed) :
      Ends w polls ⟨false, .pending, elapsed⟩
        ⟨polls + 1, .error (.failed (.waitExpired w.signature w.timeout.seconds (polls + 1)))⟩

/-- The crash of a wait that cannot count one more poll. -/
def overflow (polls : Nat) : Ending := ⟨polls, .error (.crashed "attempt to add with overflow")⟩

variable {w : Wait} {polls : Nat} {turn : Turn} {turns : List Turn} {e : Ending}

/-- The wait has polled in each turn before, and in this one unless the flag was up. -/
theorem Ends.polls_eq (h : w.Ends polls turn e) :
    e.polls = if turn.flag then polls else polls + 1 := by
  cases h <;> rfl

theorem Ends.le_polls (h : w.Ends polls turn e) : polls ≤ e.polls ∧ e.polls ≤ polls + 1 := by
  rw [h.polls_eq]
  split <;> omega

theorem decide_eq_none_iff :
    w.decide polls turn = none ↔ ¬ w.Decisive turn ∧ polls + 1 ≠ pollLimit := by
  obtain ⟨flag, look, elapsed⟩ := turn
  unfold decide Decisive
  cases flag with
  | true => simp
  | false => cases look <;> by_cases hlimit : polls + 1 = pollLimit <;> simp [hlimit]

/-- Where the polls can be counted, a turn ends a wait as the flag, its look and the clock say. -/
theorem decide_eq_some_iff_ends (hlimit : turn.flag = true ∨ polls + 1 ≠ pollLimit) :
    w.decide polls turn = some e ↔ w.Ends polls turn e := by
  obtain ⟨flag, look, elapsed⟩ := turn
  constructor
  · intro h
    have hdecides := w.decides polls ⟨flag, look, elapsed⟩
    rw [h] at hdecides
    cases hdecides with
    | interrupted => exact .interrupted look elapsed
    | overflowed _ _ limit => exact absurd limit (hlimit.resolve_left Bool.false_ne_true)
    | landed => exact .landed elapsed
    | failed fault => exact .failed fault elapsed
    | unanswered abort => exact .unanswered abort elapsed
    | expired _ late => exact .expired elapsed late
  · intro h
    cases h with
    | interrupted => rfl
    | expired _ late => simp [decide, hlimit.resolve_left Bool.false_ne_true, late, expired]
    | _ => simp [decide, hlimit.resolve_left Bool.false_ne_true]

/-- What a turn does to a wait that has counted its polls so far. -/
theorem decide_eq_some_iff (hcount : polls < pollLimit) :
    w.decide polls turn = some e ↔
      w.Ends polls turn e ∧ e.polls < pollLimit ∨
        turn.flag = false ∧ polls + 1 = pollLimit ∧ e = overflow polls := by
  by_cases hlimit : turn.flag = true ∨ polls + 1 ≠ pollLimit
  · rw [decide_eq_some_iff_ends hlimit]
    constructor
    · intro h
      refine .inl ⟨h, ?_⟩
      rw [h.polls_eq]
      split <;> grind
    · rintro (⟨h, -⟩ | ⟨hflag, hpolls, -⟩)
      · exact h
      · grind
  · obtain ⟨hflag, hpolls⟩ := not_or.1 hlimit
    rw [Bool.not_eq_true] at hflag
    rw [not_not] at hpolls
    have hdecide : w.decide polls turn = some (overflow polls) := by
      simp [decide, hflag, hpolls, overflow]
    rw [hdecide, Option.some.injEq]
    constructor
    · rintro rfl
      exact .inr ⟨hflag, hpolls, rfl⟩
    · rintro (⟨h, hcounted⟩ | ⟨-, -, rfl⟩)
      · -- The poll of the turn is one too many.
        rw [h.polls_eq, hflag, if_neg Bool.false_ne_true, hpolls] at hcounted
        exact absurd hcounted (Nat.lt_irrefl _)
      · rfl

/-- The turn with a number is the first one that is decisive, or that has a poll too many, and the
wait ends with it after some polls. -/
def EndsAt (w : Wait) (polls : Nat) (turns : List Turn) (k : Nat) (e : Ending) : Prop :=
  ∃ turn, turns[k]? = some turn ∧
    (∀ j < k, ∀ earlier, turns[j]? = some earlier → ¬ w.Decisive earlier) ∧
    (w.Ends (polls + k) turn e ∧ e.polls < pollLimit ∨
      turn.flag = false ∧ polls + k + 1 = pollLimit ∧ e = overflow (polls + k))

theorem endsAt_zero (hcount : polls < pollLimit) :
    w.EndsAt polls (turn :: turns) 0 e ↔ w.decide polls turn = some e := by
  rw [decide_eq_some_iff hcount]
  simp [EndsAt]

/-- After a turn that decides nothing the wait goes on with one more poll. -/
theorem endsAt_succ {k : Nat} :
    w.EndsAt polls (turn :: turns) (k + 1) e ↔
      w.decide polls turn = none ∧ w.EndsAt (polls + 1) turns k e := by
  have hpolls : polls + (k + 1) = polls + 1 + k := by omega
  rw [decide_eq_none_iff]
  unfold EndsAt
  rw [hpolls]
  constructor
  · rintro ⟨last, hlast, hearlier, hends⟩
    refine ⟨⟨hearlier 0 (Nat.succ_pos k) turn rfl, ?_⟩, last, hlast, fun j hj => ?_, hends⟩
    · rcases hends with ⟨hends, hcounted⟩ | ⟨-, hlimit, -⟩
      · have hle := hends.le_polls
        omega
      · omega
    · exact hearlier (j + 1) (Nat.succ_lt_succ hj)
  · rintro ⟨⟨hfirst, -⟩, last, hlast, hearlier, hends⟩
    refine ⟨last, hlast, fun j hj earlier hturn => ?_, hends⟩
    cases j with
    | zero =>
      obtain rfl := Option.some.inj hturn
      exact hfirst
    | succ j => exact hearlier j (Nat.lt_of_succ_lt_succ hj) earlier hturn

theorem ending_eq_some_iff (hcount : polls < pollLimit) :
    w.ending polls turns = some e ↔ ∃ k, w.EndsAt polls turns k e := by
  induction turns generalizing polls with
  | nil => simp [ending, EndsAt]
  | cons turn rest ih =>
    rw [← Nat.or_exists_add_one]
    simp only [endsAt_zero hcount, endsAt_succ]
    unfold ending
    cases hdecide : w.decide polls turn with
    | some e' => simp
    | none =>
      have hnext := (decide_eq_none_iff.1 hdecide).2
      simp [ih (show polls + 1 < pollLimit by omega)]

/-- A wait that has not ended has seen nothing decisive. -/
theorem not_decisive_of_ending_eq_none (h : w.ending polls turns = none) (hmem : turn ∈ turns) :
    ¬ w.Decisive turn := by
  induction turns generalizing polls with
  | nil => cases hmem
  | cons first rest ih =>
    unfold ending at h
    cases hdecide : w.decide polls first with
    | some e => simp [hdecide] at h
    | none =>
      rw [hdecide] at h
      rcases List.mem_cons.1 hmem with rfl | hmem
      · exact (decide_eq_none_iff.1 hdecide).1
      · exact ih h hmem

end Wait

/-! ## The turns of a client -/

theorem Session.upcoming_of_le {s : Session} {n : Nat} (h : n ≤ s.exchanges.length) :
    s.upcoming n = s.exchanges.take n := by
  rw [upcoming, Nat.sub_eq_zero_of_le h, List.replicate_zero, List.append_nil]

namespace Client

/-- The turn with a number of a wait over a session: the flag once the exchanges before have taken
place, a look at the next exchange, and the time that all of these and the pauses have taken.  A
node that cannot be reached leaves every look without an answer. -/
def turn (c : Client) (w : Wait) (session : Session) (i : Nat) : Turn where
  flag := session.flag || (session.upcoming i).any (·.raised)
  look := match c.reach with
    | .error fault => .unanswered (.failed (.http fault))
    | .ok url => c.look url w.signature (session.exchanges.getD i .spent)
  elapsed := ((session.upcoming (i + 1)).map (·.delay)).sum + i * c.confirmation.interval.toNanos

/-- The exchanges of some polls; there are none with a node that cannot be reached. -/
def polled (c : Client) (session : Session) (polls : Nat) : List Exchange :=
  match c.reach with
  | .error _ => []
  | .ok _ => session.upcoming polls

variable (c : Client) {w : Wait} {session : Session} {url : String}

theorem getElem?_turns {signature : Signature} {flag : Bool} {elapsed i : Nat}
    {xs : List Exchange} :
    (c.turns url signature flag elapsed xs)[i]? = xs[i]?.map fun x =>
      ⟨flag || (xs.take i).any (·.raised), c.look url signature x,
        elapsed + ((xs.take (i + 1)).map (·.delay)).sum +
          i * c.confirmation.interval.toNanos⟩ := by
  induction xs generalizing flag elapsed i with
  | nil => simp [turns]
  | cons x rest ih =>
    cases i with
    | zero => simp [turns]
    | succ i =>
      have htime (delays : Nat) : elapsed + x.delay + c.confirmation.interval.toNanos + delays +
          i * c.confirmation.interval.toNanos =
          elapsed + (x.delay + delays) + (i + 1) * c.confirmation.interval.toNanos := by
        rw [Nat.succ_mul]
        omega
      simp only [turns, List.getElem?_cons_succ, ih, List.take_succ_cons, List.any_cons,
        List.map_cons, List.sum_cons, htime, Bool.or_assoc]

/-- The turns of the exchanges to come are the first ones of the wait. -/
theorem getElem?_turns_eq_turn (hreach : c.reach = .ok url) {i : Nat}
    (h : i < session.exchanges.length) :
    (c.turns url w.signature session.flag 0 session.exchanges)[i]? =
      some (c.turn w session i) := by
  rw [getElem?_turns, List.getElem?_eq_getElem h, List.getElem_eq_getD Exchange.spent, turn, hreach,
    Session.upcoming_of_le (Nat.le_of_lt h), Session.upcoming_of_le h, Option.map_some,
    Nat.zero_add]

/-- Once the exchanges to come are over, a look has no answer. -/
theorem ends_lastEnding (hreach : c.reach = .ok url) :
    let k := session.exchanges.length
    w.Ends k (c.turn w session k)
      (lastEnding w url k (session.flag || session.exchanges.any (·.raised))) := by
  intro k
  have hturn : c.turn w session k =
      ⟨session.flag || session.exchanges.any (·.raised), c.look url w.signature .spent,
        (c.turn w session k).elapsed⟩ := by
    rw [turn, hreach, Session.upcoming_of_le (Nat.le_refl k), List.take_length,
      List.getD_eq_getElem?_getD, List.getElem?_eq_none (Nat.le_refl k), Option.getD_none]
  rw [hturn]
  unfold lastEnding
  cases session.flag || session.exchanges.any (·.raised) with
  | true => exact .interrupted _ _
  | false =>
    rw [if_neg Bool.false_ne_true, look]
    have hspent := Exchange.toOption_result_spent url (.getSignatureStatuses w.signature)
    cases hresult : Exchange.spent.result url (.getSignatureStatuses w.signature) with
    | ok result =>
      rw [hresult] at hspent
      cases hspent
    | error abort => exact .unanswered abort _

/-- A wait over a session ends with one of its turns, the first decisive one unless it has more
polls than can be counted. -/
theorem exists_ends_of_ending (c : Client) (w : Wait) (session : Session) :
    ∃ k e, (∀ j < k, ¬ w.Decisive (c.turn w session j)) ∧
      (w.Ends k (c.turn w session k) e ∨ k + 1 = Wait.pollLimit) ∧ e.polls ≤ k + 1 ∧
      (c.ending w session).outcome = e.outcome ∧
      session.upcoming (c.ending w session).polls = c.polled session e.polls := by
  unfold polled ending
  cases hreach : c.reach with
  | error fault =>
    have hturn : c.turn w session 0 =
        ⟨session.flag, .unanswered (.failed (.http fault)), (c.turn w session 0).elapsed⟩ := by
      rw [turn, hreach, Session.upcoming_zero, List.any_nil, Bool.or_false]
    cases hflag : session.flag with
    | true =>
      refine ⟨0, w.interrupted 0, by simp, .inl ?_, Nat.zero_le 1, rfl, session.upcoming_zero⟩
      rw [hturn, hflag]
      exact .interrupted _ _
    | false =>
      refine ⟨0, ⟨1, .error (.failed (.http fault))⟩, by simp, .inl ?_, Nat.le_refl 1, rfl,
        session.upcoming_zero⟩
      rw [hturn, hflag]
      exact .unanswered _ _
  | ok url =>
    dsimp only
    -- The turns of the exchanges to come decide, or else the one after them does.
    cases hending : w.ending 0
        (c.turns url w.signature session.flag 0 session.exchanges) with
    | none =>
      refine ⟨session.exchanges.length, _, fun j hj => ?_, .inl (c.ends_lastEnding hreach),
        (c.ends_lastEnding hreach).le_polls.2, rfl, rfl⟩
      exact Wait.not_decisive_of_ending_eq_none hending
        (List.mem_of_getElem? (c.getElem?_turns_eq_turn hreach hj))
    | some e =>
      obtain ⟨k, turn, hturn, hearlier, hends⟩ := (Wait.ending_eq_some_iff (by decide)).1 hending
      have hk : k < session.exchanges.length := by
        rw [getElem?_turns, Option.map_eq_some_iff] at hturn
        obtain ⟨x, hx, -⟩ := hturn
        exact (List.getElem?_eq_some_iff.1 hx).1
      obtain rfl := Option.some.inj
        ((c.getElem?_turns_eq_turn hreach hk).symm.trans hturn)
      rw [Nat.zero_add] at hends
      refine ⟨k, e, fun j hj => ?_, ?_, ?_, rfl, rfl⟩
      · exact hearlier j hj _ (c.getElem?_turns_eq_turn hreach (Nat.lt_trans hj hk))
      · exact hends.imp And.left fun h => h.2.1
      · rcases hends with ⟨hends, -⟩ | ⟨-, -, rfl⟩
        · exact hends.le_polls.2
        · exact Nat.le_succ k

/-- A wait ends with the first decisive turn, whatever the flag, the node and the clock say in turn,
unless it has more polls than can be counted.  A confirmation is such a wait: it polls its own
signature once in each turn before the last, and in the last one unless the flag was up, and it
succeeds only where the node has shown the signature as landed. -/
theorem confirm_decided (c : Client) (signature : Signature) :
    let w : Wait := ⟨signature, c.confirmation.timeout⟩
    (∀ turns e, w.ending 0 turns = some e ↔ ∃ k turn, turns[k]? = some turn ∧
      (∀ j < k, ∀ earlier, turns[j]? = some earlier → ¬ w.Decisive earlier) ∧
      (w.Ends k turn e ∧ e.polls < Wait.pollLimit ∨
        turn.flag = false ∧ k + 1 = Wait.pollLimit ∧ e = Wait.overflow k)) ∧
    ∀ session, ∃ k e, (∀ j < k, ¬ w.Decisive (c.turn w session j)) ∧
      (w.Ends k (c.turn w session k) e ∨ k + 1 = Wait.pollLimit) ∧
      (c.confirm signature).run.run session = (e.outcome,
        session.after (.getSignatureStatuses signature) (c.polled session e.polls)) ∧
      (e.outcome = .ok () → ∃ x ∈ c.polled session e.polls,
        Exchanged.Lands ⟨.getSignatureStatuses signature, x⟩ c.confirmation.level
          signature.toBase58) := by
  intro w
  refine ⟨fun turns e => ?_, fun session => ?_⟩
  · rw [Wait.ending_eq_some_iff (by decide)]
    simp only [Wait.EndsAt, Nat.zero_add]
  · obtain ⟨k, e, hearlier, hends, -, houtcome, hpolled⟩ := c.exists_ends_of_ending w session
    refine ⟨k, e, hearlier, hends, ?_, fun hok => ?_⟩
    · rw [← houtcome, ← hpolled]
      exact c.run_confirm signature session
    · rw [← hpolled]
      exact c.exists_lands_of_ending (houtcome.trans hok)

end Client

end ClusterProbe.Rpc
