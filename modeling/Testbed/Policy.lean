import Testbed.Failure

/-!
Retry policies and the waits they allow. Between two attempts a wait draws its delay from a
window; the window starts at the shortest delay and its double, and both ends double up to the
longest delay.
-/
namespace Testbed

structure Policy where
  min : Span
  max : Span
  retries : Nat
deriving DecidableEq

namespace Policy

def readiness : Policy := ⟨.ofMillis 300, .ofMillis 600, 100⟩

def metrics : Policy := ⟨.ofMillis 300, .ofMillis 600, 50⟩

def check (p : Policy) : Except Failure Unit :=
  if p.retries = 0 then .error (.config .noRetries)
  else if p.max.nanos < p.min.nanos then .error (.config (.minAboveMax p.min p.max))
  else .ok ()

theorem check_eq_ok_iff (p : Policy) :
    p.check = .ok () ↔ 0 < p.retries ∧ p.min.nanos ≤ p.max.nanos := by
  unfold check
  split
  · next h => simp [h]
  · split
    · simp only [reduceCtorEq, false_iff, not_and]
      omega
    · simp only [true_iff]
      omega

def make (min max : Span) (retries : Nat) : Except Failure Policy := do
  let p : Policy := ⟨min, max, retries⟩
  p.check
  return p

/-- The number of attempts a wait makes at most: one even where the policy allows none. -/
def attempts (p : Policy) : Nat := Max.max 1 p.retries

def text (p : Policy) : String :=
  "BackoffConfig \x7b min: " ++ p.min.text ++ ", max: " ++ p.max.text ++ ", max_retries: " ++
    Decimal.text p.retries ++ " \x7d"

end Policy

/-- The state of one wait: attempts made, and the window of the next delay. -/
structure Wait where
  policy : Policy
  tries : Nat
  low : Span
  high : Span

namespace Wait

def start (p : Policy) : Wait := ⟨p, 0, p.min, p.min.doubled.min p.max⟩

def ongoing (w : Wait) : Bool := w.tries < w.policy.attempts

/-- Delays are drawn as 64-bit numbers of nanoseconds. -/
def drawable (s : Span) : Nat := Min.min s.nanos 0xFFFF_FFFF_FFFF_FFFF

def widened (w : Wait) : Wait :=
  { w with low := w.low.doubled.min w.policy.max, high := w.high.doubled.min w.policy.max }

def settled (w : Wait) : Bool := w.high.nanos ≤ w.low.nanos

/-- The next delay. A window that is not a single point is drawn from without its upper end;
it may have no drawable point at all. -/
def delay? (w : Wait) (draw : Nat) : Option Span :=
  if w.settled then some w.high
  else if drawable w.low < drawable w.high then
    some (.ofNanos (drawable w.low + draw % (drawable w.high - drawable w.low)))
  else none

def next? (w : Wait) (draw : Nat) : Option Wait :=
  let w := { w with tries := w.tries + 1 }
  if w.ongoing then (w.delay? draw).map fun _ => w.widened else some w

def text (w : Wait) : String :=
  "Backoff \x7b config: " ++ w.policy.text ++ ", retries: " ++ Decimal.text w.tries ++
    ", next_min: " ++ w.low.text ++ ", next_max: " ++ w.high.text ++ " \x7d"

def emptyWindow : String := "cannot sample empty range"

end Wait

section Polling

variable {S α β : Type}

/-- Rounds until one settles the matter, `left + 1` at most. A round that does not leaves a
remainder, which the next one is given. -/
def pollFrom (round : β → S → (α ⊕ β) × S) : Nat → β → S → (α ⊕ β) × S
  | left, b, s =>
    match round b s with
    | (.inl a, s) => (.inl a, s)
    | (.inr b, s) =>
      match left with
      | 0 => (.inr b, s)
      | left + 1 => pollFrom round left b s

/-- The rounds of a wait whose delays can all be drawn. -/
def poll (p : Policy) (round : β → S → (α ⊕ β) × S) (start : β) (s : S) : (α ⊕ β) × S :=
  pollFrom round (p.attempts - 1) start s

/-- How a wait ends: settled by a round, after as many rounds as it may make, or broken off at a
window that has no delay to draw. -/
inductive Polled (α β : Type) where
  | settled (a : α)
  | exhausted (b : β)
  | undrawable

/-- Rounds as in `pollFrom`, with a delay before each but the first. What number the delay is drawn
by makes no difference. -/
def pacedFrom (round : β → S → (α ⊕ β) × S) : Nat → Wait → β → S → Polled α β × S
  | left, w, b, s =>
    match round b s with
    | (.inl a, s) => (.settled a, s)
    | (.inr b, s) =>
      match left with
      | 0 => (.exhausted b, s)
      | left + 1 =>
        match w.delay? 0 with
        | none => (.undrawable, s)
        | some _ => pacedFrom round left w.widened b s

def paced (p : Policy) (round : β → S → (α ⊕ β) × S) (start : β) (s : S) : Polled α β × S :=
  pacedFrom round (p.attempts - 1) (.start p) start s

end Polling

structure Exhausted where
  attempts : Nat
  last : Failure

structure Retried (α σ : Type) where
  result : Except Exhausted α
  calls : Nat
  naps : Nat
  state : σ

variable {α σ : Type}

/-- Attempts until the first success, `left + 1` at most, with a sleep between any two. -/
def retryFrom (attempt : σ → Except Failure α × σ) (calls : Nat) : Nat → σ → Retried α σ
  | left, s =>
    match attempt s with
    | (.ok a, s) => ⟨.ok a, calls + 1, calls, s⟩
    | (.error e, s) =>
      match left with
      | 0 => ⟨.error ⟨calls + 1, e⟩, calls + 1, calls, s⟩
      | left + 1 => retryFrom attempt (calls + 1) left s

def retry (p : Policy) (attempt : σ → Except Failure α × σ) (s : σ) : Retried α σ :=
  retryFrom attempt 0 (p.attempts - 1) s

inductive RetryEvent where
  | called
  | slept (delay : Span)
deriving DecidableEq

/-- How a retry ends: with a result, or broken off at a counter that cannot count another attempt or
at a window that has no delay to draw. -/
inductive RetryEnd (α : Type) where
  | returned (result : Except Exhausted α)
  | uncountable
  | undrawable

structure RetryRun (α σ : Type) where
  ending : RetryEnd α
  events : List RetryEvent
  state : σ

def RetryRun.after (events : List RetryEvent) (r : RetryRun α σ) : RetryRun α σ :=
  { r with events := events ++ r.events }

namespace Wait

variable {w w' : Wait} {draw : Nat}

def counted (w : Wait) : Wait := { w with tries := w.tries + 1 }

def nap? (w : Wait) (draw : Nat) : Option Span :=
  if w.counted.ongoing then w.delay? draw else none

theorem next?_eq (w : Wait) (draw : Nat) : w.next? draw =
    if w.counted.ongoing then (w.delay? draw).map fun _ => w.counted.widened else some w.counted :=
  rfl

theorem next?_counts (h : w.next? draw = some w') :
    w'.policy = w.policy ∧ w'.tries = w.tries + 1 := by
  rw [next?_eq] at h
  split at h
  · obtain ⟨_, -, rfl⟩ := Option.map_eq_some_iff.1 h
    exact ⟨rfl, rfl⟩
  · cases h
    exact ⟨rfl, rfl⟩

theorem ongoing_iff : w.ongoing = true ↔ w.tries < w.policy.attempts := decide_eq_true_iff

/-- The loop of a retry. Its counter has 32 bits; `draws` are the numbers that delays are drawn by,
and `last` is the failure before. -/
def drive (attempt : σ → Except Failure α × σ) (draws : Nat → Nat) (w : Wait) (last : Failure)
    (s : σ) : RetryRun α σ :=
  if _ : w.ongoing then
    match attempt s with
    | (.ok a, s) => ⟨.returned (.ok a), [.called], s⟩
    | (.error e, s) =>
      if 0x1_0000_0000 ≤ w.tries + 1 then ⟨.uncountable, [.called], s⟩
      else
        match _ : w.next? (draws w.tries) with
        | none => ⟨.undrawable, [.called], s⟩
        | some w' =>
          (drive attempt draws w' e s).after
            (.called :: (w.nap? (draws w.tries)).toList.map .slept)
  else ⟨.returned (.error ⟨w.tries, last⟩), [], s⟩
termination_by w.policy.attempts - w.tries
decreasing_by
  have hless := ongoing_iff.1 ‹_›
  obtain ⟨hpolicy, htries⟩ := next?_counts ‹_›
  rw [hpolicy, htries]
  omega

end Wait

end Testbed
