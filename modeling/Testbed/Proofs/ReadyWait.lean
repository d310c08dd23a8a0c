import Testbed.Proofs.Accepted
import Testbed.Proofs.Pacing
import Testbed.StandIn.Backend
import Testbed.StandIn.Network

/-!
Waiting for readiness, told by the attempts of the probe. A wait ends with the first attempt that
succeeds, or before the first one that the runnable does not live to see; without either it makes
as many attempts as its policy allows. It is broken off after an attempt whose delay cannot be
drawn. A runnable that is found ready need not be running any
more, as the command of a probe may have stopped it.
-/
namespace Testbed.Environment

open History

variable {σ κ : Type} {e e' : Environment σ κ} {i : Nat} {r : Runnable κ} {p : Probe} {n : Nat}

section Attempts

variable (b : Backend σ κ) (net : Network σ) (i : Nat) (p : Probe) (e : Environment σ κ)

def attempted : Nat → Environment σ κ
  | 0 => e
  | n + 1 => (check b net i p).after (attempted n)

def attempt (n : Nat) : Except Failure Unit := (check b net i p (attempted b net i p e n)).1

def FailFirst (n : Nat) : Prop :=
  ∀ j < n, (attempted b net i p e j).isRunning i = true ∧ (attempt b net i p e j).isOk = false

instance (n : Nat) : Decidable (FailFirst b net i p e n) :=
  inferInstanceAs (Decidable (∀ j < n, _ ∧ _))

def lastFailure : Nat → Failure
  | 0 => noAttempt
  | n + 1 =>
    match attempt b net i p e n with
    | .ok () => noAttempt
    | .error f => f

end Attempts

section Counted

variable (b : Backend σ κ) (net : Network σ)

def countedRound (i : Nat) (p : Probe) (_ : Failure) (s : Environment σ κ × Nat) :
    (Except Failure Unit ⊕ Failure) × (Environment σ κ × Nat) :=
  if !s.1.isRunning i then (.inl (.error (.notRunning (s.1.nameOf i))), s)
  else
    match check b net i p s.1 with
    | (.ok (), e) => (.inl (.ok ()), (e.update i markReady, s.2 + 1))
    | (.error f, e) => (.inr f, (e, s.2 + 1))

def countedWait (i : Nat) : Act (Environment σ κ × Nat) Unit := fun s =>
  match s.1.runnables[i]? with
  | none => (.error (.notRunning ""), s)
  | some r =>
    if !r.lifecycle.isRunning then (.error (.notRunning r.name), s)
    else
      match r.options.readiness with
      | none => (.ok (), (s.1.update i markReady, s.2))
      | some p =>
        match paced r.policy (countedRound b net i p) noAttempt s with
        | (.settled result, s) => (result, s)
        | (.exhausted last, s) => (.error (.notReady r.name r.policy.attempts last), s)
        | (.undrawable, s) => (.error (.panicked Wait.emptyWindow), s)

theorem countedRound_value (i : Nat) (p : Probe) (last : Failure) (s : Environment σ κ × Nat) :
    ((countedRound b net i p last s).1, (countedRound b net i p last s).2.1) =
      readyRound b net i p last s.1 := by
  unfold countedRound readyRound
  split
  · rfl
  · rcases check b net i p s.1 with ⟨f | u, e₁⟩ <;> rfl

theorem countedWait_value (i : Nat) (s : Environment σ κ × Nat) :
    ((countedWait b net i s).1, (countedWait b net i s).2.1) = waitReady b net i s.1 := by
  unfold countedWait waitReady
  cases s.1.runnables[i]? with
  | none => rfl
  | some r =>
    dsimp only
    split
    · rfl
    · cases r.options.readiness with
      | none => rfl
      | some p =>
        have hwait := paced_view (·.1) (countedRound_value b net i p) r.policy noAttempt s
        dsimp only at hwait ⊢
        rw [← hwait]
        rcases paced r.policy (countedRound b net i p) noAttempt s with
          ⟨result | last | _, s'⟩ <;> rfl

end Counted

section

variable {b : Backend σ κ} {net : Network σ}

theorem attempted_handled (n : Nat) : Handled i e (attempted b net i p e n) := by
  induction n with
  | zero => exact .refl i e
  | succ n ih => exact ih.trans (check_handled b net i p _)

theorem isOk_iff {x : Except Failure Unit} : x.isOk = true ↔ x = .ok () := by
  cases x <;> simp [Except.isOk, Except.toBool]

theorem attempt_eq_error (h : (attempt b net i p e n).isOk = false) :
    attempt b net i p e n = .error (lastFailure b net i p e (n + 1)) := by
  rw [lastFailure]
  cases ha : attempt b net i p e n with
  | error f => rfl
  | ok u =>
    rw [ha] at h
    cases h

theorem check_attempted : check b net i p (attempted b net i p e n) =
    (attempt b net i p e n, attempted b net i p e (n + 1)) := rfl

theorem countedRound_of_success (last : Failure) (m : Nat)
    (hrun : (attempted b net i p e n).isRunning i = true)
    (ha : (attempt b net i p e n).isOk = true) :
    countedRound b net i p last (attempted b net i p e n, m) =
      (.inl (.ok ()), ((attempted b net i p e (n + 1)).update i markReady, m + 1)) := by
  simp [countedRound, hrun, check_attempted, isOk_iff.mp ha]

theorem countedRound_of_failure (last : Failure) (m : Nat)
    (hrun : (attempted b net i p e n).isRunning i = true)
    (ha : (attempt b net i p e n).isOk = false) :
    countedRound b net i p last (attempted b net i p e n, m) =
      (.inr (lastFailure b net i p e (n + 1)), (attempted b net i p e (n + 1), m + 1)) := by
  simp [countedRound, hrun, check_attempted, attempt_eq_error ha]

theorem countedRound_of_stopped (last : Failure) (m : Nat)
    (hrun : (attempted b net i p e n).isRunning i = false) :
    countedRound b net i p last (attempted b net i p e n, m) =
      (.inl (.error (.notRunning (e.nameOf i))), (attempted b net i p e n, m)) := by
  simp [countedRound, hrun, (attempted_handled n).nameOf]

theorem FailFirst.unsettled (h : FailFirst b net i p e n) :
    Unsettled (countedRound b net i p) noAttempt (e, 0) n (lastFailure b net i p e n)
      (attempted b net i p e n, n) := by
  induction n with
  | zero => exact .start
  | succ n ih =>
    have hbefore := ih fun j hj => h j (Nat.lt_succ_of_lt hj)
    obtain ⟨hrun, ha⟩ := h n (Nat.lt_succ_self n)
    exact hbefore.next (countedRound_of_failure _ n hrun ha)

theorem countedWait_of_stopped (hi : e.runnables[i]? = some r)
    (hrun : r.lifecycle.isRunning = false) :
    countedWait b net i (e, 0) = (.error (.notRunning r.name), (e, 0)) := by
  simp [countedWait, hi, hrun]

variable (b net) in
theorem countedWait_of_paced (hi : e.runnables[i]? = some r)
    (hrun : r.lifecycle.isRunning = true) (hp : r.options.readiness = some p) :
    countedWait b net i (e, 0) =
      match paced r.policy (countedRound b net i p) noAttempt (e, 0) with
      | (.settled result, s) => (result, s)
      | (.exhausted last, s) => (.error (.notReady r.name r.policy.attempts last), s)
      | (.undrawable, s) => (.error (.panicked Wait.emptyWindow), s) := by
  simp [countedWait, hi, hrun, hp]

theorem countedWait_of_blocked (hi : e.runnables[i]? = some r)
    (hrun : r.lifecycle.isRunning = true) (hp : r.options.readiness = some p)
    (hn : n + 1 < r.policy.attempts) (hfail : FailFirst b net i p e (n + 1))
    (hd : ∀ j < n, ¬r.policy.Blocked j) (hb : r.policy.Blocked n) :
    countedWait b net i (e, 0) =
      (.error (.panicked Wait.emptyWindow), (attempted b net i p e (n + 1), n + 1)) := by
  rw [countedWait_of_paced b net hi hrun hp, hfail.unsettled.paced_of_blocked hn hd hb]

/-- A wait of a runnable that does not run fails before any attempt, and one without a probe
succeeds at once. Any other wait returns with the first attempt that succeeds, and gives up after
as many failures as the policy of the options allows, or else that of the environment; the last
of them is its cause. In between it fails as soon as an attempt has stopped the runnable. All this
holds as long as the delays between the attempts can be drawn; the first that cannot be breaks the
wait off. -/
theorem waitReady_by_attempts (hr : e.Reachable b net) (hi : e.runnables[i]? = some r) :
    let wait := countedWait b net i (e, 0)
    let policy := r.options.backoff.getD e.config.readyBackoff
    let most := policy.retries
    let drawn := fun n => ∀ j < n, ¬policy.Blocked j
    waitReady b net i e = (wait.1, wait.2.1) ∧
    (r.lifecycle.isRunning = false → wait = (.error (.notRunning r.name), (e, 0))) ∧
    (r.lifecycle.isRunning = true → r.options.readiness = none →
      wait = (.ok (), (e.update i markReady, 0)) ∧
        (e.update i markReady).lifecycle? i = some .ready) ∧
    ∀ p, r.lifecycle.isRunning = true → r.options.readiness = some p →
      let after := attempted b net i p e
      (∀ k < most, drawn k → FailFirst b net i p e k → (after k).isRunning i = true →
        (attempt b net i p e k).isOk = true →
        wait = (.ok (), ((after (k + 1)).update i markReady, k + 1)) ∧
          ((after (k + 1)).isRunning i = true →
            ((after (k + 1)).update i markReady).lifecycle? i = some .ready)) ∧
      (drawn (most - 1) → FailFirst b net i p e most →
        ∃ f, attempt b net i p e (most - 1) = .error f ∧
          wait = (.error (.notReady r.name most f), (after most, most)) ∧
          ((after most).isRunning i = true → (after most).lifecycle? i = some r.lifecycle)) ∧
      (∀ k < most, drawn k → FailFirst b net i p e k → (after k).isRunning i = false →
        wait = (.error (.notRunning r.name), (after k, k))) ∧
      ∀ k, k + 1 < most → drawn k → policy.Blocked k → FailFirst b net i p e (k + 1) →
        wait = (.error (.panicked Wait.emptyWindow), (after (k + 1), k + 1)) := by
  intro wait policy most drawn
  have hname : e.nameOf i = r.name := by simp [Environment.nameOf, hi]
  have haccepted := hr.accepted r (List.mem_of_getElem? hi)
  have hpolicy : r.policy = policy := haccepted.policy
  have hmost : r.policy.attempts = most := haccepted.attempts
  refine ⟨(countedWait_value b net i (e, 0)).symm, countedWait_of_stopped hi, ?_, ?_⟩
  · intro hrun hp
    refine ⟨by simp [wait, countedWait, hi, hrun, hp], lifecycle?_update_markReady ?_⟩
    rw [isRunning_of_getElem? hi, hrun]
  · intro p hrun hp after
    have hwait := countedWait_of_paced b net hi hrun hp
    refine ⟨?_, ?_, ?_, ?_⟩
    · intro k hk hd hfail hrunk ha
      have hround := countedRound_of_success (lastFailure b net i p e k) k hrunk ha
      rw [hfail.unsettled.paced_of_settled (hpolicy ▸ hd) (hmost ▸ hk) hround] at hwait
      exact ⟨hwait, lifecycle?_update_markReady⟩
    · intro hd hfail
      have hpos : 0 < most := hmost ▸ Nat.lt_of_lt_of_le Nat.one_pos (Nat.le_max_left 1 _)
      have hlast := attempt_eq_error (hfail (most - 1) (Nat.sub_lt hpos Nat.one_pos)).2
      rw [Nat.sub_add_cancel hpos] at hlast
      have hrounds := hfail.unsettled
      rw [← hmost] at hrounds
      have hdrawn : ∀ j, j + 1 < r.policy.attempts → ¬r.policy.Blocked j := by
        rw [hmost, hpolicy]
        exact fun j hj => hd j (Nat.lt_sub_of_add_lt hj)
      rw [hrounds.paced_of_exhausted hdrawn, hmost] at hwait
      refine ⟨_, hlast, hwait, ?_⟩
      intro hrunm
      rw [(attempted_handled most).lifecycle?_of_running hrunm]
      simp [Environment.lifecycle?, hi]
    · intro k hk hd hfail hstop
      have hround := countedRound_of_stopped (lastFailure b net i p e k) k hstop
      rw [hfail.unsettled.paced_of_settled (hpolicy ▸ hd) (hmost ▸ hk) hround, hname] at hwait
      exact hwait
    · intro k hk hd hb hfail
      exact countedWait_of_blocked hi hrun hp (hmost ▸ hk) hfail (hpolicy ▸ hd) (hpolicy ▸ hb)

def probingBy (backoff : Policy) : Options :=
  { Options.ofImage "image" with
    readiness := some (.command ⟨"check", [], false⟩)
    backoff := some backoff }

def twice : Policy := ⟨.ofMillis 1, .ofMillis 1, 2⟩

def probing : Options := probingBy twice

def probingPair : List Request :=
  [.initialise ⟨"a", .empty⟩ probing, .initialise ⟨"b", .empty⟩ probing, .start 0, .start 1]

def scripted (scripts : Table (List ExecOutput)) : World StandIn.State :=
  ⟨.empty, .empty, { StandIn.State.empty with
    staging := { StandIn.Staging.empty with scripts } }⟩

theorem waitReady_by_attempts_failing : ∃ e : Environment StandIn.State String,
    e.Reachable StandIn.backend StandIn.network ∧
    (∃ e', countedWait StandIn.backend StandIn.network 0 (e, 0) = (.ok (), (e', 2)) ∧
      e'.lifecycle? 0 = some .ready) ∧
    ∃ f e', countedWait StandIn.backend StandIn.network 1 (e, 0) =
      (.error (.notReady "b" 2 f), (e', 2)) := by
  let probe : Probe := .command ⟨"check", [], false⟩
  obtain ⟨e, hr, hp⟩ := exists_reachable StandIn.backend StandIn.network (.ofName "bed") "/tmp"
    "Ab3dE9" (scripted ((Table.empty.insert "a" [⟨"", "", 1⟩]).insert "b"
      (List.replicate 2 ⟨"", "", 1⟩))) probingPair
    (fun e =>
      (e.runnables[0]?.any fun r => r.lifecycle.isRunning ∧ r.options.readiness = some probe ∧
        r.options.backoff.getD e.config.readyBackoff = twice) ∧
      (e.runnables[1]?.any fun r => r.lifecycle.isRunning ∧ r.options.readiness = some probe ∧
        r.options.backoff.getD e.config.readyBackoff = twice ∧ r.name = "b") ∧
      FailFirst StandIn.backend StandIn.network 0 probe e 1 ∧
      (attempted StandIn.backend StandIn.network 0 probe e 1).isRunning 0 ∧
      (attempt StandIn.backend StandIn.network 0 probe e 1).isOk ∧
      (attempted StandIn.backend StandIn.network 0 probe e 2).isRunning 0 ∧
      FailFirst StandIn.backend StandIn.network 1 probe e 2) (by decide +kernel)
  obtain ⟨ha, hb, hfail, hrun, hok, hafter, hfail'⟩ := of_decide_eq_true hp
  obtain ⟨r, hi, hd⟩ := (Option.any_eq_true _ _).mp ha
  obtain ⟨hrunning, hprobe, htwice⟩ := of_decide_eq_true hd
  obtain ⟨r', hi', hd'⟩ := (Option.any_eq_true _ _).mp hb
  obtain ⟨hrunning', hprobe', htwice', hname⟩ := of_decide_eq_true hd'
  have hdrawn : ∀ n j, j < n → ¬twice.Blocked j :=
    fun _ j _ => Policy.not_blocked_of_le (by decide) j
  refine ⟨e, hr, ?_, ?_⟩
  · obtain ⟨-, -, -, h⟩ := waitReady_by_attempts hr hi
    rw [htwice] at h
    obtain ⟨heq, hl⟩ := (h probe hrunning hprobe).1 1 (by decide) (hdrawn 1) hfail hrun hok
    exact ⟨_, heq, hl hafter⟩
  · obtain ⟨-, -, -, h⟩ := waitReady_by_attempts hr hi'
    rw [htwice', hname] at h
    obtain ⟨f, -, heq, -⟩ := (h probe hrunning' hprobe').2.1 (hdrawn _) hfail'
    exact ⟨f, _, heq⟩

theorem waitReady_broken_off : ¬∀ (e : Environment StandIn.State String) (i : Nat)
    (r : Runnable String) (p : Probe),
    let most := (r.options.backoff.getD e.config.readyBackoff).retries
    e.Reachable StandIn.backend StandIn.network → e.runnables[i]? = some r →
    r.lifecycle.isRunning = true → r.options.readiness = some p →
    FailFirst StandIn.backend StandIn.network i p e most →
    ∃ f, countedWait StandIn.backend StandIn.network i (e, 0) =
      (.error (.notReady r.name most f),
        (attempted StandIn.backend StandIn.network i p e most, most)) := by
  intro hall
  let probe : Probe := .command ⟨"check", [], false⟩
  obtain ⟨e, hr, hp⟩ := exists_reachable StandIn.backend StandIn.network (.ofName "bed") "/tmp"
    "Ab3dE9" (scripted (Table.empty.insert "a" (List.replicate 3 ⟨"", "", 1⟩)))
    [.initialise ⟨"a", .empty⟩ (probingBy Policy.vast), .start 0]
    (fun e =>
      (e.runnables[0]?.any fun r => r.lifecycle.isRunning ∧ r.options.readiness = some probe ∧
        r.options.backoff.getD e.config.readyBackoff = Policy.vast) ∧
      FailFirst StandIn.backend StandIn.network 0 probe e 3) (by decide +kernel)
  obtain ⟨ha, hfail⟩ := of_decide_eq_true hp
  obtain ⟨r, hi, hd⟩ := (Option.any_eq_true _ _).mp ha
  obtain ⟨hrunning, hprobe, hvast⟩ := of_decide_eq_true hd
  have hpolicy : r.policy = Policy.vast :=
    (hr.accepted r (List.mem_of_getElem? hi)).policy.trans hvast
  have hbroken := countedWait_of_blocked (n := 0) hi hrunning hprobe (by rw [hpolicy]; decide)
    (fun j hj => hfail j (Nat.lt_of_lt_of_le hj (by decide)))
    (fun j hj => absurd hj (Nat.not_lt_zero j)) (hpolicy ▸ Policy.vast_blocked)
  obtain ⟨f, hwait⟩ := hall e 0 r probe hr hi hrunning hprobe (by rw [hvast]; exact hfail)
  rw [hbroken] at hwait
  cases hwait

/-- A wait that succeeds leaves the runnable ready exactly if no halt of it succeeded meanwhile;
else it leaves it stopped. -/
theorem ready_iff_unhalted (hr : e.Reachable b net) (hw : waitReady b net i e = (.ok (), e')) :
    ∃ h, e'.history = e.history ++ h ∧
      (e'.lifecycle? i = some .ready ↔ ∀ x ∈ h, x.halts i = false) ∧
      ((∃ x ∈ h, x.halts i = true) → e'.lifecycle? i = some .stopped) := by
  have hheld := hr.faithful.held
  obtain ⟨h, hc⟩ := waitReady_calm b net hheld i
  rw [Act.after, hw] at hc
  obtain ⟨e₁, hh, hcases⟩ := waitReady_handled b net i e
  rw [hw] at hcases
  obtain ⟨heq, hbefore⟩ : e' = e₁.update i markReady ∧ e.isRunning i = true := by
    rcases hcases with ⟨heq, hrun⟩ | ⟨f, heq⟩
    · exact ⟨(Prod.mk.inj heq).2, hrun⟩
    · cases heq
  have hready : e'.lifecycle? i = some .ready ↔ e'.isRunning i = true := by
    constructor
    · intro hl
      rw [isRunning_of_lifecycle? hl, Lifecycle.isRunning]
    · intro hrun
      rw [heq] at hrun ⊢
      exact lifecycle?_update_markReady (isRunning_of_update_markReady hrun)
  have hrunning : e'.isRunning i = true ↔ ∀ x ∈ h, x.halts i = false := by
    rw [hheld.isRunning, Option.isSome_iff_ne_none] at hbefore
    rw [hc.held.isRunning, hc.workloads, Option.isSome_iff_ne_none, ne_eq,
      live_eq_none_iff hc.launchless]
    simp [hbefore]
  refine ⟨h, hc.history, hready.trans hrunning, ?_⟩
  rintro ⟨x, hx, hxi⟩
  have hstopped : e₁.isRunning i = false := by
    cases hrun : e₁.isRunning i with
    | false => rfl
    | true =>
      have hl := lifecycle?_update_markReady hrun
      rw [← heq, hready, hrunning] at hl
      rw [hl x hx] at hxi
      cases hxi
  rw [heq, update_markReady_of_stopped hstopped]
  rcases hh with hk | hs
  · rw [hk.isRunning, hbefore] at hstopped
    cases hstopped
  · exact hs.lifecycle?

theorem exists_stopped_by_probe : ∃ e : Environment StandIn.State String,
    e.Reachable StandIn.backend StandIn.network ∧
    ∃ e', waitReady StandIn.backend StandIn.network 0 e = (.ok (), e') ∧
      e'.lifecycle? 0 = some .stopped := by
  obtain ⟨e, hr, hp⟩ := exists_reachable StandIn.backend StandIn.network (.ofName "bed") "/tmp"
    "Ab3dE9" ⟨.empty, .empty, { StandIn.State.empty with
      staging := { StandIn.Staging.empty with stopsInExec := ["a"] } }⟩ probingPair
    (fun e => (waitReady StandIn.backend StandIn.network 0 e).1.isOk ∧
      (waitReady StandIn.backend StandIn.network 0 e).2.lifecycle? 0 = some .stopped)
    (by decide +kernel)
  obtain ⟨hok, hl⟩ := of_decide_eq_true hp
  exact ⟨e, hr, _, Prod.ext (isOk_iff.mp hok) rfl, hl⟩

theorem ready_iff_unhalted_stopping : ∃ e e' : Environment StandIn.State String,
    e.Reachable StandIn.backend StandIn.network ∧
    waitReady StandIn.backend StandIn.network 0 e = (.ok (), e') ∧
    ∃ h, e'.history = e.history ++ h ∧ ∃ x ∈ h, x.halts 0 = true := by
  obtain ⟨e, hr, e', hw, hl⟩ := exists_stopped_by_probe
  obtain ⟨h, hh, hiff, -⟩ := ready_iff_unhalted hr hw
  refine ⟨e, e', hr, hw, h, hh, ?_⟩
  by_contra hn
  rw [hiff.mpr (by simpa using hn)] at hl
  cases hl

theorem ready_of_stopped_by_probe : ¬∀ e : Environment StandIn.State String,
    e.Reachable StandIn.backend StandIn.network → ∀ i e',
      waitReady StandIn.backend StandIn.network i e = (.ok (), e') →
      e'.lifecycle? i = some .ready := by
  intro hall
  obtain ⟨e, hr, e', hw, hl⟩ := exists_stopped_by_probe
  rw [hall e hr 0 e' hw] at hl
  cases hl

end

end Testbed.Environment
