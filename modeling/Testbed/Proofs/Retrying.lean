import Mathlib.Tactic.IntervalCases
import Testbed.Policy

/-!
Retries, told by the outcomes of their attempts. A retry is the loop that a wait drives: as long as
the wait goes on an attempt is made, a failure is counted and, if another attempt may follow, slept
after. The loop ends because the wait does; it calls and sleeps as often as `retry` says.
-/
namespace Testbed

variable {σ α : Type}

section Attempts

variable (attempt : σ → Except Failure α × σ) (s : σ)

def retried : Nat → σ
  | 0 => s
  | n + 1 => (attempt (retried n)).2

def retryOutcome (n : Nat) : Except Failure α := (attempt (retried attempt s n)).1

def AllFail (n : Nat) : Prop := ∀ j < n, ∃ e, retryOutcome attempt s j = .error e

variable {attempt s}

theorem AllFail.before {m n : Nat} (h : AllFail attempt s n) (hm : m ≤ n) : AllFail attempt s m :=
  fun j hj => h j (Nat.lt_of_lt_of_le hj hm)

theorem attempt_retried {n : Nat} {r : Except Failure α} (h : retryOutcome attempt s n = r) :
    attempt (retried attempt s n) = (r, retried attempt s (n + 1)) := h ▸ rfl

variable (attempt s)

theorem first_success_or_allFail (n : Nat) :
    (∃ k < n, AllFail attempt s k ∧ ∃ a, retryOutcome attempt s k = .ok a) ∨
      AllFail attempt s n := by
  induction n with
  | zero => exact .inr fun j hj => absurd hj (Nat.not_lt_zero j)
  | succ n ih =>
    rcases ih with ⟨k, hk, hfirst⟩ | hall
    · exact .inl ⟨k, Nat.lt_succ_of_lt hk, hfirst⟩
    · cases hr : retryOutcome attempt s n with
      | ok a => exact .inl ⟨n, Nat.lt_succ_self n, hall, a, hr⟩
      | error e => exact .inr (Nat.forall_lt_succ_right.2 ⟨hall, e, hr⟩)

end Attempts

namespace Wait

variable {w w' : Wait} {draw : Nat}

section Rounds

variable {attempt : σ → Except Failure α × σ} {draws : Nat → Nat} {last e : Failure} {s s' : σ}
  {a : α}

theorem drive_of_ok (hw : w.ongoing = true) (h : attempt s = (.ok a, s')) :
    w.drive attempt draws last s = ⟨.returned (.ok a), [.called], s'⟩ := by
  rw [drive, dif_pos hw, h]

theorem drive_of_error (hw : w.ongoing = true) (h : attempt s = (.error e, s'))
    (hcount : w.tries + 1 < 0x1_0000_0000) (hnext : w.next? (draws w.tries) = some w') :
    w.drive attempt draws last s = (w'.drive attempt draws e s').after
      (.called :: (w.nap? (draws w.tries)).toList.map .slept) := by
  rw [drive, dif_pos hw, h]
  dsimp only
  rw [if_neg (Nat.not_le.2 hcount)]
  split
  · next hnone => cases hnone.symm.trans hnext
  · next hsome => rw [Option.some.inj (hsome.symm.trans hnext)]

theorem drive_of_done (hw : ¬w.ongoing = true) :
    w.drive attempt draws last s = ⟨.returned (.error ⟨w.tries, last⟩), [], s⟩ := by
  rw [drive, dif_neg hw]

end Rounds

def nth (p : Policy) : Nat → Wait
  | 0 => start p
  | n + 1 => (nth p n).counted.widened

theorem nth_counts (p : Policy) (n : Nat) : (nth p n).policy = p ∧ (nth p n).tries = n := by
  induction n with
  | zero => exact ⟨rfl, rfl⟩
  | succ n ih => exact ⟨ih.1, congrArg (· + 1) ih.2⟩

variable {p : Policy} {n : Nat}

theorem ongoing_nth : (nth p n).ongoing = true ↔ n < p.attempts := by
  rw [ongoing_iff, (nth_counts p n).1, (nth_counts p n).2]

theorem ongoing_counted_nth : (nth p n).counted.ongoing = true ↔ n + 1 < p.attempts := by
  rw [ongoing_iff, counted, (nth_counts p n).1, (nth_counts p n).2]

theorem countable_nth (hp : p.retries < 2 ^ 32) (hn : n < p.attempts) :
    (nth p n).tries + 1 < 2 ^ 32 := by
  have hmost : p.attempts < 2 ^ 32 := Nat.max_lt.2 ⟨by decide, hp⟩
  rw [(nth_counts p n).2]
  omega

end Wait

/-- No delay that is slept for is drawn from a window without a point. -/
def Policy.Draws (p : Policy) (draws : Nat → Nat) (delays : Nat → Span) : Prop :=
  ∀ n, n + 1 < p.attempts → (Wait.nth p n).delay? (draws n) = some (delays n)

def rounds (delays : Nat → Span) (n : Nat) : List RetryEvent :=
  (List.range n).flatMap fun j => [.called, .slept (delays j)]

theorem rounds_succ (delays : Nat → Span) (n : Nat) :
    rounds delays (n + 1) = rounds delays n ++ [.called, .slept (delays n)] := by
  simp [rounds, List.range_succ]

theorem RetryRun.after_after (events events' : List RetryEvent) (r : RetryRun α σ) :
    (r.after events').after events = r.after (events ++ events') := by
  simp [RetryRun.after]

section Retry

variable {p : Policy} {attempt : σ → Except Failure α × σ} {draws : Nat → Nat}
  {delays : Nat → Span} {last e : Failure} {s s' : σ} {a : α} {n left : Nat}

theorem AllFail.exists_last (h : AllFail attempt s p.attempts) : ∃ n e, n + 1 = p.attempts ∧
    AllFail attempt s n ∧ retryOutcome attempt s n = .error e := by
  obtain ⟨n, hn⟩ := Nat.exists_eq_add_one.2
    (Nat.lt_of_lt_of_le Nat.one_pos (Nat.le_max_left 1 p.retries) : 0 < p.attempts)
  obtain ⟨e, he⟩ := h n (hn ▸ Nat.lt_succ_self n)
  exact ⟨n, e, hn.symm, h.before (hn ▸ Nat.le_succ n), he⟩

theorem drive_nth_of_more (hp : p.retries < 2 ^ 32) (hd : p.Draws draws delays)
    (hmore : n + 1 < p.attempts) (h : attempt s = (.error e, s')) :
    (Wait.nth p n).drive attempt draws last s =
      ((Wait.nth p (n + 1)).drive attempt draws e s').after [.called, .slept (delays n)] := by
  have hn := Nat.lt_of_succ_lt hmore
  have hagain := Wait.ongoing_counted_nth.2 hmore
  have hdelay : (Wait.nth p n).delay? (draws (Wait.nth p n).tries) = some (delays n) := by
    rw [(Wait.nth_counts p n).2]
    exact hd n hmore
  have hnext : (Wait.nth p n).next? (draws (Wait.nth p n).tries) = some (Wait.nth p (n + 1)) := by
    rw [Wait.next?_eq, if_pos hagain, hdelay]
    rfl
  rw [Wait.drive_of_error (Wait.ongoing_nth.2 hn) h (Wait.countable_nth hp hn) hnext, Wait.nap?,
    if_pos hagain, hdelay]
  rfl

theorem drive_nth_of_last (hp : p.retries < 2 ^ 32) (hlast : n + 1 = p.attempts)
    (h : attempt s = (.error e, s')) :
    (Wait.nth p n).drive attempt draws last s =
      ⟨.returned (.error ⟨n + 1, e⟩), [.called], s'⟩ := by
  have hn : n < p.attempts := Nat.lt_of_lt_of_eq (Nat.lt_succ_self n) hlast
  have hdone : ¬(Wait.nth p n).counted.ongoing = true :=
    mt Wait.ongoing_counted_nth.1 (Nat.not_lt.2 (Nat.le_of_eq hlast.symm))
  have hnext : (Wait.nth p n).next? (draws (Wait.nth p n).tries) =
      some (Wait.nth p n).counted := by
    rw [Wait.next?_eq, if_neg hdone]
  rw [Wait.drive_of_error (Wait.ongoing_nth.2 hn) h (Wait.countable_nth hp hn) hnext,
    Wait.drive_of_done hdone, Wait.nap?, if_neg hdone, Wait.counted, (Wait.nth_counts p n).2]
  rfl

theorem drive_start_of_fail (last : Failure) (hp : p.retries < 2 ^ 32)
    (hd : p.Draws draws delays) (hn : n < p.attempts) (hall : AllFail attempt s n) :
    ∃ last', (Wait.start p).drive attempt draws last s =
      ((Wait.nth p n).drive attempt draws last' (retried attempt s n)).after (rounds delays n) := by
  induction n with
  | zero => exact ⟨last, rfl⟩
  | succ n ih =>
    obtain ⟨last', hbefore⟩ := ih (Nat.lt_of_succ_lt hn) (hall.before (Nat.le_succ n))
    obtain ⟨e, he⟩ := hall n (Nat.lt_succ_self n)
    refine ⟨e, ?_⟩
    rw [hbefore, drive_nth_of_more hp hd hn (attempt_retried he), RetryRun.after_after,
      rounds_succ]

theorem drive_start_of_ok (hp : p.retries < 2 ^ 32) (hd : p.Draws draws delays)
    (hn : n < p.attempts) (hall : AllFail attempt s n) (h : retryOutcome attempt s n = .ok a) :
    (Wait.start p).drive attempt draws last s =
      ⟨.returned (.ok a), rounds delays n ++ [.called], retried attempt s (n + 1)⟩ := by
  obtain ⟨last', hrun⟩ := drive_start_of_fail last hp hd hn hall
  rw [hrun, Wait.drive_of_ok (Wait.ongoing_nth.2 hn) (attempt_retried h)]
  rfl

theorem drive_start_of_error (hp : p.retries < 2 ^ 32) (hd : p.Draws draws delays)
    (hn : n + 1 = p.attempts) (hall : AllFail attempt s n)
    (h : retryOutcome attempt s n = .error e) :
    (Wait.start p).drive attempt draws last s =
      ⟨.returned (.error ⟨n + 1, e⟩), rounds delays n ++ [.called],
        retried attempt s (n + 1)⟩ := by
  have hless : n < p.attempts := Nat.lt_of_lt_of_eq (Nat.lt_succ_self n) hn
  obtain ⟨last', hrun⟩ := drive_start_of_fail last hp hd hless hall
  rw [hrun, drive_nth_of_last hp hn (attempt_retried h)]
  rfl

theorem retryFrom_of_ok {calls : Nat} (h : attempt s = (.ok a, s')) :
    retryFrom attempt calls left s = ⟨.ok a, calls + 1, calls, s'⟩ := by
  cases left <;> rw [retryFrom, h]

theorem retryFrom_of_error {calls : Nat} (h : attempt s = (.error e, s')) :
    retryFrom attempt calls 0 s = ⟨.error ⟨calls + 1, e⟩, calls + 1, calls, s'⟩ := by
  rw [retryFrom, h]

theorem retryFrom_of_fail (left : Nat) (hall : AllFail attempt s n) :
    retryFrom attempt 0 (n + left) s = retryFrom attempt n left (retried attempt s n) := by
  induction n generalizing left with
  | zero => rw [Nat.zero_add, retried]
  | succ n ih =>
    obtain ⟨e, he⟩ := hall n (Nat.lt_succ_self n)
    have hbefore := ih (left + 1) (hall.before (Nat.le_succ n))
    rw [Nat.add_assoc, Nat.add_comm 1, hbefore, retryFrom, attempt_retried he]

theorem retry_of_ok (hn : n < p.attempts) (hall : AllFail attempt s n)
    (h : retryOutcome attempt s n = .ok a) :
    retry p attempt s = ⟨.ok a, n + 1, n, retried attempt s (n + 1)⟩ := by
  obtain ⟨left, hleft⟩ := Nat.exists_eq_add_of_le (Nat.le_sub_one_of_lt hn)
  rw [retry, hleft, retryFrom_of_fail left hall, retryFrom_of_ok (attempt_retried h)]

theorem retry_of_error (hn : n + 1 = p.attempts) (hall : AllFail attempt s n)
    (h : retryOutcome attempt s n = .error e) :
    retry p attempt s = ⟨.error ⟨n + 1, e⟩, n + 1, n, retried attempt s (n + 1)⟩ := by
  have hbefore := retryFrom_of_fail 0 hall
  rw [Nat.add_zero] at hbefore
  rw [retry, ← hn, Nat.add_sub_cancel, hbefore, retryFrom_of_error (attempt_retried h)]

/-- A retry calls up to the first success and returns it, or, if there is none among the attempts
that it may make, makes them all and returns the last failure with their number. Between any two
attempts it sleeps for the delay that is drawn, after the last one it does not. It never breaks
off. -/
theorem retry_by_outcomes (hp : p.retries < 2 ^ 32) (hd : p.Draws draws delays)
    (attempt : σ → Except Failure α × σ) (s : σ) :
    let most := Max.max 1 p.retries
    let run := (Wait.start p).drive attempt draws (.config .noAttempt) s
    run.ending = .returned (retry p attempt s).result ∧
    (∀ k < most, AllFail attempt s k → ∀ a, retryOutcome attempt s k = .ok a →
      run = ⟨.returned (.ok a), rounds delays k ++ [.called], retried attempt s (k + 1)⟩ ∧
      retry p attempt s = ⟨.ok a, k + 1, k, retried attempt s (k + 1)⟩) ∧
    (AllFail attempt s most → ∃ e, retryOutcome attempt s (most - 1) = .error e ∧
      run = ⟨.returned (.error ⟨most, e⟩), rounds delays (most - 1) ++ [.called],
        retried attempt s most⟩ ∧
      retry p attempt s = ⟨.error ⟨most, e⟩, most, most - 1, retried attempt s most⟩) := by
  intro most run
  refine ⟨?_, fun k hk hall a ha => ?_, fun hall => ?_⟩
  · rcases first_success_or_allFail attempt s most with ⟨k, hk, hall, a, ha⟩ | hall
    · have hrun : run = _ := drive_start_of_ok hp hd hk hall ha
      rw [hrun, retry_of_ok hk hall ha]
    · obtain ⟨n, e, hn, hbefore, he⟩ := hall.exists_last
      have hrun : run = _ := drive_start_of_error hp hd hn hbefore he
      rw [hrun, retry_of_error hn hbefore he]
  · exact ⟨drive_start_of_ok hp hd hk hall ha, retry_of_ok hk hall ha⟩
  · obtain ⟨n, e, hn, hbefore, he⟩ := hall.exists_last
    have hmost : most = n + 1 := hn.symm
    rw [hmost]
    exact ⟨e, he, drive_start_of_error hp hd hn hbefore he, retry_of_error hn hbefore he⟩

end Retry

def thirdTime (n : Nat) : Except Failure Nat × Nat :=
  if n < 2 then (.error (.missingMetric "jobs" "a"), n + 1) else (.ok n, n + 1)

theorem retry_by_outcomes_third :
    let policy := fun retries : Nat => (⟨.ofMillis 10, .ofMillis 80, retries⟩ : Policy)
    let slept := fun ms : Nat => RetryEvent.slept (.ofMillis ms)
    let events := fun p : Policy =>
      ((Wait.start p).drive thirdTime (fun _ => 0) (.config .noAttempt) 0).events
    retry (policy 5) thirdTime 0 = ⟨.ok 2, 3, 2, 3⟩ ∧
    events (policy 5) = [.called, slept 10, .called, slept 20, .called] ∧
    retry (policy 2) thirdTime 0 = ⟨.error ⟨2, .missingMetric "jobs" "a"⟩, 2, 1, 2⟩ ∧
    events (policy 2) = [.called, slept 10, .called] ∧
    retry (policy 0) thirdTime 0 = ⟨.error ⟨1, .missingMetric "jobs" "a"⟩, 1, 0, 1⟩ ∧
    events (policy 0) = [.called] := by
  intro policy slept events
  have hall : AllFail thirdTime 0 2 := by
    intro j hj
    interval_cases j <;> exact ⟨_, rfl⟩
  have hmost : ∀ retries ∈ [5, 2, 0], (policy retries).attempts ≤ 5 := by decide
  have hdelays : ∀ retries ∈ [5, 2, 0], ∀ n < 4,
      (Wait.nth (policy retries) n).delay? 0 = some (.ofMillis (10 * 2 ^ n)) := by
    decide +kernel
  have hd : ∀ retries ∈ [5, 2, 0],
      (policy retries).Draws (fun _ => 0) fun n => .ofMillis (10 * 2 ^ n) := by
    intro retries hretries n hn
    have hfew := hmost retries hretries
    exact hdelays retries hretries n (by omega)
  have hthird :=
    (retry_by_outcomes (p := policy 5) (by decide) (hd 5 (by decide)) thirdTime 0).2.1 2
      (by decide) hall 2 rfl
  obtain ⟨_, he, hsecond⟩ :=
    (retry_by_outcomes (p := policy 2) (by decide) (hd 2 (by decide)) thirdTime 0).2.2 hall
  cases he
  obtain ⟨_, he, hfirst⟩ :=
    (retry_by_outcomes (p := policy 0) (by decide) (hd 0 (by decide)) thirdTime 0).2.2
      (hall.before (by decide))
  cases he
  exact ⟨hthird.2, congrArg RetryRun.events hthird.1, hsecond.2,
    congrArg RetryRun.events hsecond.1, hfirst.2, congrArg RetryRun.events hfirst.1⟩

end Testbed
