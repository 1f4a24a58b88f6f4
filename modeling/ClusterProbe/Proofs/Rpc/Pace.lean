import ClusterProbe.Proofs.Rpc.Turns
import Mathlib.Algebra.Order.Floor.Div

/-!
# How long a wait may take

With a pause of at least the interval between any two of its polls, a wait polls no more often than
the interval fits into the timeout, and once more.
-/

namespace ClusterProbe.Rpc

namespace Wait

/-- The wait is over in the turn with a number, and not before. -/
def OverIn (w : Wait) (turn : Nat → Turn) (k : Nat) (e : Ending) : Prop :=
  w.ending 0 ((List.range k).map turn) = none ∧
    ∀ n, k < n → w.ending 0 ((List.range n).map turn) = some e

/-- Between the ends of two looks there is a pause of at least the interval. -/
def Paced (interval : Nat) (turn : Nat → Turn) : Prop :=
  ∀ i, (turn i).elapsed + interval ≤ (turn (i + 1)).elapsed

/-- The turns of a wait whose polls take no time and whose pauses last exactly the interval, with an
interrupt that arrives at some time, if one does. -/
def steady (interval : Nat) (rise : Option Nat) (looks : Nat → Look) (i : Nat) : Turn :=
  ⟨rise.any (· ≤ i * interval), looks i, i * interval⟩

variable {w : Wait} {turn : Nat → Turn} {k n polls interval : Nat} {e : Ending}

/-- A wait goes on with the turns that are left, unless it has ended before them. -/
theorem ending_append (turns rest : List Turn) :
    w.ending polls (turns ++ rest) =
      (w.ending polls turns).or (w.ending (polls + turns.length) rest) := by
  induction turns generalizing polls with
  | nil => rfl
  | cons turn turns ih =>
    rw [List.cons_append, ending, ending]
    cases w.decide polls turn with
    | some e => rfl
    | none => rw [List.length_cons, ih, Nat.add_comm turns.length, ← Nat.add_assoc]

/-- The last of some turns decides where none before does. -/
theorem ending_range_succ :
    w.ending 0 ((List.range (n + 1)).map turn) =
      (w.ending 0 ((List.range n).map turn)).or (w.decide n (turn n)) := by
  have hlast : w.ending n [turn n] = w.decide n (turn n) := by
    rw [ending]
    cases w.decide n (turn n) <;> rfl
  rw [List.range_succ, List.map_append, ending_append, List.length_map, List.length_range,
    Nat.zero_add, List.map_singleton, hlast]

theorem overIn_iff :
    w.OverIn turn k e ↔
      w.ending 0 ((List.range k).map turn) = none ∧ w.decide k (turn k) = some e := by
  refine and_congr_right fun hbefore => ⟨fun h => ?_, fun h n hn => ?_⟩
  · have hk := h (k + 1) (Nat.lt_succ_self k)
    rwa [ending_range_succ, hbefore, Option.none_or] at hk
  · induction n, hn using Nat.le_induction with
    | base => rw [ending_range_succ, hbefore, Option.none_or, h]
    | succ n _ ih => rw [ending_range_succ, ih, Option.some_or]

theorem OverIn.not_decisive (h : w.OverIn turn k e) {j : Nat} (hj : j < k) :
    ¬ w.Decisive (turn j) :=
  not_decisive_of_ending_eq_none h.1 (List.mem_map_of_mem (List.mem_range.2 hj))

/-- A wait is over by any turn that is decisive. -/
theorem exists_overIn (h : w.Decisive (turn n)) : ∃ k ≤ n, ∃ e, w.OverIn turn k e := by
  suffices hsome : w.ending 0 ((List.range (n + 1)).map turn) ≠ none by
    clear h
    induction n with
    | zero =>
      obtain ⟨e, he⟩ := Option.ne_none_iff_exists'.1 hsome
      rw [ending_range_succ] at he
      exact ⟨0, Nat.le_refl 0, e, overIn_iff.2 ⟨rfl, he⟩⟩
    | succ n ih =>
      by_cases hbefore : w.ending 0 ((List.range (n + 1)).map turn) = none
      · obtain ⟨e, he⟩ := Option.ne_none_iff_exists'.1 hsome
        rw [ending_range_succ, hbefore, Option.none_or] at he
        exact ⟨n + 1, Nat.le_refl _, e, overIn_iff.2 ⟨hbefore, he⟩⟩
      · obtain ⟨k, hk, hover⟩ := ih hbefore
        exact ⟨k, Nat.le_succ_of_le hk, hover⟩
  intro hnone
  exact not_decisive_of_ending_eq_none hnone
    (List.mem_map_of_mem (List.mem_range.2 (Nat.lt_succ_self n))) h

/-- A turn counts a poll only with the flag down, and no more than one. -/
theorem polls_of_decide {turn : Turn} (h : w.decide polls turn = some e) :
    e.polls ≤ polls + 1 ∧ (turn.flag = true → e.polls = polls) := by
  have hdecides := w.decides polls turn
  rw [h] at hdecides
  cases hdecides <;> simp [interrupted, expired]

/-! ## A clock that goes on -/

theorem Paced.le_elapsed (h : Paced interval turn) (i : Nat) : i * interval ≤ (turn i).elapsed := by
  induction i with
  | zero => exact (Nat.zero_mul interval).trans_le (Nat.zero_le _)
  | succ i ih =>
    rw [Nat.succ_mul]
    exact Nat.le_trans (Nat.add_le_add_right ih interval) (h i)

theorem paced_steady (interval : Nat) (rise : Option Nat) (looks : Nat → Look) :
    Paced interval (steady interval rise looks) :=
  fun i => Nat.le_of_eq (Nat.succ_mul i interval).symm

/-- Once the interval has fitted into the timeout as often as it can, the time is up. -/
theorem decisive_of_le_elapsed {turn : Turn} (hinterval : 0 < interval)
    (h : (w.timeout.toNanos ⌈/⌉ interval) * interval ≤ turn.elapsed) : w.Decisive turn := by
  have hfits : w.timeout.toNanos ≤ interval * (w.timeout.toNanos ⌈/⌉ interval) :=
    (ceilDiv_le_iff_le_mul hinterval).1 (Nat.le_refl _)
  rw [Nat.mul_comm] at hfits
  exact .inr (.inr (Nat.le_trans hfits h))

theorem Paced.exists_overIn (h : Paced interval turn) (hinterval : 0 < interval) :
    ∃ k ≤ w.timeout.toNanos ⌈/⌉ interval, ∃ e, w.OverIn turn k e :=
  Wait.exists_overIn (decisive_of_le_elapsed hinterval (h.le_elapsed _))

/-- A wait with steady turns is over before one interval more than the timeout has passed, and with
the interval in which an interrupt arrives. -/
theorem OverIn.steady {rise : Option Nat} {looks : Nat → Look} (hinterval : 0 < interval)
    (h : w.OverIn (steady interval rise looks) k e) :
    k * interval < w.timeout.toNanos + interval ∧
      ∀ r ∈ rise, (∀ i < e.polls, i * interval < r) ∧ k * interval < r + interval := by
  have hearlier : ∀ j < k, j * interval < w.timeout.toNanos ∧ ∀ r ∈ rise, j * interval < r := by
    intro j hj
    have hnot := h.not_decisive hj
    simp only [Decisive, Wait.steady, not_or, not_le, Option.any_eq_true, decide_eq_true_eq,
      not_exists, not_and] at hnot
    exact ⟨hnot.2.2, hnot.1⟩
  have hlast (bound : Nat) (hbound : ∀ j < k, j * interval < bound) :
      k * interval < bound + interval := by
    cases k with
    | zero => omega
    | succ j =>
      rw [Nat.succ_mul]
      exact Nat.add_lt_add_right (hbound j (Nat.lt_succ_self j)) interval
  obtain ⟨hpolls, hflag⟩ := polls_of_decide (overIn_iff.1 h).2
  refine ⟨hlast _ fun j hj => (hearlier j hj).1, fun r hr => ⟨fun i hi => ?_, ?_⟩⟩
  · rcases Nat.lt_or_eq_of_le (Nat.le_of_lt_succ (Nat.lt_of_lt_of_le hi hpolls)) with hik | rfl
    · exact (hearlier i hik).2 r hr
    · -- The poll of the last turn begins with the flag down.
      by_contra hle
      have hraised : (Wait.steady interval rise looks i).flag = true := by
        rw [Option.mem_def.1 hr, Wait.steady, Option.any_some, decide_eq_true_eq]
        exact Nat.le_of_not_lt hle
      exact absurd hi (Nat.not_lt_of_le (Nat.le_of_eq (hflag hraised)))
  · exact hlast r fun j hj => (hearlier j hj).2 r hr

end Wait

namespace Client

variable {c : Client} {w : Wait} {session : Session}

theorem length_polled_le (polls : Nat) : (c.polled session polls).length ≤ polls := by
  unfold polled
  cases c.reach with
  | error fault => exact Nat.zero_le polls
  | ok url => exact Nat.le_of_eq (session.length_upcoming polls)

theorem le_elapsed_turn (i : Nat) :
    i * c.confirmation.interval.toNanos ≤ (c.turn w session i).elapsed :=
  Nat.le_add_left _ _

/-- A wait with a pause after each poll that does not end it polls no more often than the pauses fit
into the timeout, and once more, whatever the flag and the node say; as long as that number of polls
can be counted, it ends as its last turn says.  Where only the pauses take time, it is over before
one of them has passed beyond the timeout; once an interrupt arrives it does not poll again, and it
is over with the pause at that time.  A confirmation is bounded in the same way. -/
theorem confirm_bounded (c : Client) (signature : Signature)
    (hinterval : 0 < c.confirmation.interval.toNanos) :
    let w : Wait := ⟨signature, c.confirmation.timeout⟩
    let timeout := c.confirmation.timeout.toNanos
    let interval := c.confirmation.interval.toNanos
    let bound := timeout ⌈/⌉ interval + 1
    (∀ turn, Wait.Paced interval turn → ∃ k e, w.OverIn turn k e ∧ e.polls ≤ bound ∧
      (bound < Wait.pollLimit → w.Ends k (turn k) e)) ∧
    (∀ rise looks, ∃ k e, w.OverIn (Wait.steady interval rise looks) k e ∧
      k * interval < timeout + interval ∧
      ∀ r ∈ rise, (∀ i < e.polls, i * interval < r) ∧ k * interval < r + interval) ∧
    ∀ session, ∃ outcome xs, (c.confirm signature).run.run session =
        (outcome, session.after (.getSignatureStatuses signature) xs) ∧
      xs.length ≤ bound ∧
      (bound < Wait.pollLimit → ∃ k e, w.Ends k (c.turn w session k) e ∧ outcome = e.outcome) := by
  intro w timeout interval bound
  refine ⟨fun turn hturn => ?_, fun rise looks => ?_, fun session => ?_⟩
  · obtain ⟨k, hk, e, hover⟩ := Wait.Paced.exists_overIn (w := w) hturn hinterval
    have hbound : k + 1 ≤ bound := Nat.succ_le_succ hk
    have hdecide := (Wait.overIn_iff.1 hover).2
    refine ⟨k, e, hover, Nat.le_trans (Wait.polls_of_decide hdecide).1 hbound, fun hlimit => ?_⟩
    have hcounted : k + 1 ≠ Wait.pollLimit := (hbound.trans_lt hlimit).ne
    exact (Wait.decide_eq_some_iff_ends (.inr hcounted)).1 hdecide
  · obtain ⟨k, -, e, hover⟩ :=
      (Wait.paced_steady interval rise looks).exists_overIn (w := w) hinterval
    obtain ⟨htime, hrise⟩ := hover.steady hinterval
    exact ⟨k, e, hover, htime, hrise⟩
  · obtain ⟨k, e, hearlier, hends, hpolls, houtcome, hpolled⟩ := c.exists_ends_of_ending w session
    have hbound : k + 1 ≤ bound := by
      refine Nat.succ_le_succ (Nat.le_of_not_lt fun hlt => hearlier _ hlt ?_)
      exact Wait.decisive_of_le_elapsed hinterval (c.le_elapsed_turn _)
    refine ⟨e.outcome, c.polled session e.polls, ?_, ?_, fun hlimit => ⟨k, e, ?_, rfl⟩⟩
    · rw [← houtcome, ← hpolled]
      exact c.run_confirm signature session
    · exact Nat.le_trans (length_polled_le e.polls) (Nat.le_trans hpolls hbound)
    · have hcounted : k + 1 ≠ Wait.pollLimit := (hbound.trans_lt hlimit).ne
      exact hends.resolve_right hcounted

/-- With the defaults there are 121 polls at most, and an interrupt after 1.1 seconds is heeded in
time. -/
theorem confirm_bounded_default :
    let c : Client := ⟨"http://localhost:8899", {}, fun _ => true⟩
    let w : Wait := ⟨.replicate 64 0, c.confirmation.timeout⟩
    let interval := c.confirmation.interval.toNanos
    let turn := Wait.steady interval (some 1100000000) fun _ => .pending
    0 < interval ∧ (∃ k e, w.OverIn turn k e ∧ e.polls ≤ 121 ∧ w.Ends k (turn k) e) ∧
    ∃ k e, w.OverIn turn k e ∧ k * interval < 1100000000 + interval := by
  intro c w interval turn
  have hinterval : 0 < c.confirmation.interval.toNanos := by decide
  have hbound : c.confirmation.timeout.toNanos ⌈/⌉ c.confirmation.interval.toNanos + 1 = 121 := by
    decide
  obtain ⟨hpaced, hsteady, -⟩ := c.confirm_bounded w.signature hinterval
  refine ⟨hinterval, ?_, ?_⟩
  · obtain ⟨k, e, hover, hpolls, hends⟩ := hpaced turn (Wait.paced_steady _ _ _)
    rw [hbound] at hpolls hends
    exact ⟨k, e, hover, hpolls, hends (by decide)⟩
  · obtain ⟨k, e, hover, -, hrise⟩ := hsteady (some 1100000000) fun _ => .pending
    exact ⟨k, e, hover, (hrise 1100000000 rfl).2⟩

end Client

end ClusterProbe.Rpc
