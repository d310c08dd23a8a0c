import Mathlib.Tactic.IntervalCases
import Testbed.Metrics.Source
import Testbed.Proofs.Pacing

/-!
Waiting for metrics, told by the outcomes of the scrapes. A wait ends with the first outcome
that is decisive; without one it makes as many scrapes as its policy allows and tells what it
saw last. It is broken off after a scrape whose delay cannot be drawn.
-/
namespace Testbed.Metrics

variable {S : Type} (sum : Act S (List Float)) (x : Expectation) (s : Selection) (st : S)
  (n : Nat)

def scraped : Nat → S
  | 0 => st
  | n + 1 => sum.after (scraped n)

def outcome : Except Failure (List Float) := (sum (scraped sum st n)).1

def outcomes : List (Except Failure (List Float)) := (List.range n).map (outcome sum st)

def counted : Act (S × Nat) (List Float) := fun p =>
  let (r, st) := sum p.1
  (r, (st, p.2 + 1))

/-- How an outcome ends a wait, if it is decisive. -/
def verdict? : Except Failure (List Float) → Option (Except Failure Unit)
  | .ok sums => if x.accepts sums then some (.ok ()) else none
  | .error f => if f.isMissingMetric ∧ s.missing = .wait then none else some (.error f)

def missing? : Except Failure (List Float) → Option Failure
  | .ok _ => none
  | .error f => if f.isMissingMetric then some f else none

def lastSums (os : List (Except Failure (List Float))) : List Float :=
  (os.filterMap Except.toOption).getLast?.getD []

def lastMissing (os : List (Except Failure (List Float))) : Option Failure :=
  (os.filterMap missing?).getLast?

def seenIn (os : List (Except Failure (List Float))) : Seen := ⟨lastSums os, lastMissing os⟩

theorem outcomes_succ :
    outcomes sum st (n + 1) = outcomes sum st n ++ [outcome sum st n] := by
  simp [outcomes, List.range_succ]

theorem seenIn_ok (os : List (Except Failure (List Float))) (sums : List Float) :
    seenIn (os ++ [.ok sums]) = { seenIn os with sums } := by
  simp [seenIn, lastSums, lastMissing, missing?, Except.toOption]

theorem seenIn_missing (os : List (Except Failure (List Float))) {f : Failure}
    (hf : f.isMissingMetric) :
    seenIn (os ++ [.error f]) = { seenIn os with error := some f } := by
  simp [seenIn, lastSums, lastMissing, missing?, Except.toOption, hf]

theorem scraped_counted :
    scraped (counted sum) (st, 0) n = (scraped sum st n, n) := by
  induction n with
  | zero => rfl
  | succ n ih => rw [scraped, ih]; rfl

theorem outcome_counted : outcome (counted sum) (st, 0) = outcome sum st := by
  funext n
  rw [outcome, scraped_counted]
  rfl

theorem outcomes_counted : outcomes (counted sum) (st, 0) n = outcomes sum st n := by
  rw [outcomes, outcomes, outcome_counted]

variable {x s}

theorem sumRound_of_verdict {r : Except Failure Unit} (seen : Seen)
    (hr : verdict? x s (outcome sum st n) = some r) :
    sumRound sum x s seen (scraped sum st n) = (.inl r, scraped sum st (n + 1)) := by
  have hsum : sum (scraped sum st n) = (outcome sum st n, scraped sum st (n + 1)) := rfl
  simp only [sumRound, hsum]
  cases ho : outcome sum st n with
  | ok sums =>
    rw [ho] at hr
    by_cases ha : x.accepts sums
    · simp_all [verdict?]
    · simp [verdict?, ha] at hr
  | error f =>
    rw [ho] at hr
    by_cases hf : f.isMissingMetric ∧ s.missing = .wait
    · simp [verdict?, hf] at hr
    · simp_all [verdict?]

theorem sumRound_of_none (hr : verdict? x s (outcome sum st n) = none) :
    sumRound sum x s (seenIn (outcomes sum st n)) (scraped sum st n) =
      (.inr (seenIn (outcomes sum st (n + 1))), scraped sum st (n + 1)) := by
  have hsum : sum (scraped sum st n) = (outcome sum st n, scraped sum st (n + 1)) := rfl
  simp only [sumRound, hsum, outcomes_succ]
  cases ho : outcome sum st n with
  | ok sums =>
    rw [ho] at hr
    have ha : x.accepts sums = false := by simpa [verdict?] using hr
    rw [seenIn_ok]
    simp [ha]
  | error f =>
    rw [ho] at hr
    have hf : f.isMissingMetric ∧ s.missing = .wait := by simpa [verdict?] using hr
    rw [seenIn_missing _ hf.1]
    simp [hf]

theorem unsettled_of_none (hr : ∀ j < n, verdict? x s (outcome sum st j) = none) :
    Unsettled (sumRound sum x s) ⟨[], none⟩ st n (seenIn (outcomes sum st n))
      (scraped sum st n) := by
  induction n with
  | zero => exact .start
  | succ n ih =>
    have hbefore := ih fun j hj => hr j (Nat.lt_succ_of_lt hj)
    exact hbefore.next (sumRound_of_none sum st n (hr n (Nat.lt_succ_self n)))

theorem waitSums_of_ne (source : String) {names : List String} (h : names.length ≠ x.arity) :
    waitSums source sum x names s st =
      (.error (.config (.arity x.description x.arity names.length)), st) := by
  simp [waitSums, Expectation.checkArity, h]

theorem waitSums_of_verdict (source : String) {names : List String}
    (h : names.length = x.arity) (hn : n < s.waitPolicy.attempts)
    (hr : ∀ j < n, verdict? x s (outcome sum st j) = none)
    (hd : ∀ j < n, ¬s.waitPolicy.Blocked j) {r : Except Failure Unit}
    (hv : verdict? x s (outcome sum st n) = some r) :
    waitSums source sum x names s st = (r, scraped sum st (n + 1)) := by
  have hwait := (unsettled_of_none sum st n hr).paced_of_settled hd hn
    (sumRound_of_verdict sum st n _ hv)
  simp [waitSums, Expectation.checkArity, h, hwait]

theorem waitSums_of_none (source : String) {names : List String} (h : names.length = x.arity)
    (hr : ∀ j < s.waitPolicy.attempts, verdict? x s (outcome sum st j) = none)
    (hd : ∀ j, j + 1 < s.waitPolicy.attempts → ¬s.waitPolicy.Blocked j) :
    waitSums source sum x names s st =
      (.error (.expectationNotMet source names x.description
        (lastSums (outcomes sum st s.waitPolicy.attempts))
        ((lastMissing (outcomes sum st s.waitPolicy.attempts)).map (·.message))),
      scraped sum st s.waitPolicy.attempts) := by
  have hwait := (unsettled_of_none sum st s.waitPolicy.attempts hr).paced_of_exhausted hd
  simp [waitSums, Expectation.checkArity, h, hwait, seenIn]

theorem waitSums_of_blocked (source : String) {names : List String} (h : names.length = x.arity)
    (hn : n + 1 < s.waitPolicy.attempts)
    (hr : ∀ j < n + 1, verdict? x s (outcome sum st j) = none)
    (hd : ∀ j < n, ¬s.waitPolicy.Blocked j) (hb : s.waitPolicy.Blocked n) :
    waitSums source sum x names s st =
      (.error (.panicked Wait.emptyWindow), scraped sum st (n + 1)) := by
  have hwait := (unsettled_of_none sum st (n + 1) hr).paced_of_blocked hn hd hb
  simp [waitSums, Expectation.checkArity, h, hwait]

variable (x) in
theorem accepts_congr {holds : List Float → Bool}
    (h : ∀ sums, sums.length = x.arity → holds sums = x.holds sums) :
    Expectation.accepts { x with holds } = x.accepts := by
  funext sums
  by_cases hl : sums.length = x.arity
  · simp [Expectation.accepts, h sums hl]
  · simp [Expectation.accepts, beq_eq_false_iff_ne.mpr hl]

variable (x) in
theorem waitSums_congr (source : String) (names : List String) {holds : List Float → Bool}
    (h : ∀ sums, sums.length = x.arity → holds sums = x.holds sums) :
    waitSums source sum { x with holds } names s st = waitSums source sum x names s st := by
  have hround : sumRound sum { x with holds } s = sumRound sum x s := by
    funext seen st
    simp only [sumRound, accepts_congr x h]
  simp only [waitSums, hround, Expectation.checkArity]

variable (x s)

/-- A wait whose expectation is made for another number of names fails at once. Else it scrapes
up to the first decisive outcome and returns what that decides, or, if there is none among the
scrapes it may make, it makes them all and tells the last sums and the last missing metric, as long
as the delays between its scrapes can be drawn; the first that cannot be breaks it off. The
predicate is only ever asked about as many sums as it is made for. -/
theorem waitSums_until_decisive (source : String) (names : List String) :
    let wait := fun x => waitSums source (counted sum) x names s (st, 0)
    let most := Max.max 1 s.waitPolicy.retries
    let undecided := fun n => ∀ j < n, verdict? x s (outcome sum st j) = none
    let drawn := fun n => ∀ j < n, ¬s.waitPolicy.Blocked j
    let last := (lastMissing (outcomes sum st most)).map (·.message)
    (names.length ≠ x.arity →
      wait x = (.error (.config (.arity x.description x.arity names.length)), (st, 0))) ∧
    (names.length = x.arity →
      (∀ i < most, undecided i → drawn i → ∀ r, verdict? x s (outcome sum st i) = some r →
        wait x = (r, (scraped sum st (i + 1), i + 1))) ∧
      (undecided most → drawn (most - 1) →
        ∃ f, wait x = (.error f, (scraped sum st most, most)) ∧
          f = .expectationNotMet source names x.description (lastSums (outcomes sum st most))
            last ∧
          ∃ text, f.message = text ++ "; last error: " ++ last.getD "none") ∧
      ∀ i, i + 1 < most → undecided (i + 1) → drawn i → s.waitPolicy.Blocked i →
        wait x = (.error (.panicked Wait.emptyWindow), (scraped sum st (i + 1), i + 1))) ∧
    ∀ holds : List Float → Bool, (∀ sums, sums.length = x.arity → holds sums = x.holds sums) →
      wait { x with holds } = wait x := by
  intro wait most undecided drawn last
  have hundecided : ∀ n, undecided n →
      ∀ j < n, verdict? x s (outcome (counted sum) (st, 0) j) = none := by
    intro n h
    rw [outcome_counted]
    exact h
  refine ⟨fun hne => waitSums_of_ne (counted sum) (st, 0) source hne, fun heq => ⟨?_, ?_, ?_⟩,
    fun holds hholds => waitSums_congr (counted sum) x (st, 0) source names hholds⟩
  · intro i hi hbefore hdrawn r hr
    rw [← outcome_counted] at hr
    rw [← scraped_counted]
    exact waitSums_of_verdict (counted sum) (st, 0) i source heq hi (hundecided i hbefore) hdrawn hr
  · intro hnone hdrawn
    refine ⟨_, ?_, rfl, _, rfl⟩
    have hwait := waitSums_of_none (counted sum) (st, 0) source heq (hundecided most hnone)
      fun j hj => hdrawn j (Nat.lt_sub_of_add_lt hj)
    rw [outcomes_counted, scraped_counted] at hwait
    exact hwait
  · intro i hi hnone hdrawn hblocked
    rw [← scraped_counted]
    exact waitSums_of_blocked (counted sum) (st, 0) i source heq hi (hundecided _ hnone) hdrawn
      hblocked

def lateSource : Act Nat (List Float)
  | 0 => (.error (.missingMetric "jobs" "a"), 1)
  | 1 => (.ok [1.0, 2.0], 2)
  | n => (.ok [3.0], n + 1)

theorem waitSums_until_decisive_late :
    let wait := fun retries => waitSums "a" (counted lateSource) ⟨1, "any", fun _ => true⟩ ["jobs"]
      ⟨[], .value, .wait, some ⟨.ofMillis 1, .ofMillis 1, retries⟩⟩ (0, 0)
    wait 5 = (.ok (), (3, 3)) ∧
    ∃ f, wait 2 = (.error f, (2, 2)) ∧
      f = .expectationNotMet "a" ["jobs"] "any" [1.0, 2.0]
        (some "metric jobs is missing from a") := by
  have hlate : ∀ j < 2, ∀ p, verdict? ⟨1, "any", fun _ => true⟩ ⟨[], .value, .wait, p⟩
      (outcome lateSource 0 j) = none := by
    intro j hj p
    interval_cases j <;> rfl
  have hdrawn : ∀ retries j,
      ¬Policy.Blocked ⟨.ofMillis 1, .ofMillis 1, retries⟩ j :=
    fun _ => Policy.not_blocked_of_le (show (1000000 : Nat) ≤ Wait.mostDrawable by decide)
  refine ⟨?_, ?_⟩
  · obtain ⟨-, h, -⟩ := waitSums_until_decisive lateSource ⟨1, "any", fun _ => true⟩
      ⟨[], .value, .wait, some ⟨.ofMillis 1, .ofMillis 1, 5⟩⟩ 0 "a" ["jobs"]
    exact (h rfl).1 2 (by decide) (fun j hj => hlate j hj _) (fun j _ => hdrawn 5 j) (.ok ()) rfl
  · obtain ⟨-, h, -⟩ := waitSums_until_decisive lateSource ⟨1, "any", fun _ => true⟩
      ⟨[], .value, .wait, some ⟨.ofMillis 1, .ofMillis 1, 2⟩⟩ 0 "a" ["jobs"]
    obtain ⟨f, hwait, hf, -⟩ := (h rfl).2.1 (fun j hj => hlate j hj _) fun j _ => hdrawn 2 j
    exact ⟨f, hwait, hf⟩

theorem waitSums_broken_off : ¬∀ (sum : Act Nat (List Float)) (x : Expectation) (s : Selection)
    (st : Nat) (source : String) (names : List String),
    let most := Max.max 1 s.waitPolicy.retries
    names.length = x.arity → (∀ j < most, verdict? x s (outcome sum st j) = none) →
    ∃ f, waitSums source (counted sum) x names s (st, 0) =
      (.error f, (scraped sum st most, most)) := by
  intro hall
  let sum : Act Nat (List Float) := fun n => (.ok [1.0], n)
  let x : Expectation := ⟨1, "none", fun _ => false⟩
  let s : Selection := ⟨[], .value, .fail, some Policy.vast⟩
  have hnone : ∀ j, verdict? x s (outcome sum 0 j) = none := fun _ => rfl
  obtain ⟨f, hwait⟩ := hall sum x s 0 "a" ["jobs"] rfl fun j _ => hnone j
  have hbroken : waitSums "a" (counted sum) x ["jobs"] s (0, 0) =
      (.error (.panicked Wait.emptyWindow), scraped (counted sum) (0, 0) 1) :=
    waitSums_of_blocked (counted sum) (0, 0) 0 "a" rfl (by decide)
      (fun j _ => by rw [outcome_counted]; exact hnone j)
      (fun j hj => absurd hj (Nat.not_lt_zero j)) Policy.vast_blocked
  rw [hbroken, scraped_counted] at hwait
  cases hwait

end Testbed.Metrics
