import Testbed.Proofs.Listening
import Testbed.Proofs.ReadyWait

/-!
What a request that fails leaves behind. Apart from the world and the record of what was asked of
the backend, the environment is as it was before, unless what the request set going acted on the
environment itself: a launch that closes it, a command that halts the runnable it runs in.
-/
namespace Testbed

open Environment

variable {σ κ : Type} {e e' : Environment σ κ} {i : Nat} {f : Failure} {p : Probe}

namespace Environment

section Commands

variable (b : Backend σ κ) (i : Nat)

def commandHalts (c : Command) (sinks : ExecSinks) (e : Environment σ κ) : List Halt :=
  match e.running? i with
  | none => []
  | some (_, w) => (b.exec w c sinks e.world).1.halts

def probeHalts (e : Environment σ κ) : Probe → List Halt
  | .command c => commandHalts b i c .none e
  | _ => []

variable {b i}

theorem exec_kept {c : Command} {sinks : ExecSinks} (hn : commandHalts b i c sinks e = []) :
    Kept e (exec b i c sinks e).2 := by
  unfold commandHalts at hn
  unfold exec
  cases hr : e.running? i with
  | none => exact .refl e
  | some q =>
    obtain ⟨r, w⟩ := q
    simp only [hr] at hn
    have hk := (kept_world e (b.exec w c sinks e.world).2).trans
      (kept_record (x := .executed i w c) rfl _)
    dsimp only
    rw [hn]
    exact hk

variable {net : Network σ}

theorem check_kept (hn : probeHalts b i e p = []) : Kept e (check b net i p e).2 := by
  cases p with
  | http p =>
    simp only [check, checkHttp]
    cases e.address i p.port with
    | error f => exact .refl e
    | ok address => exact kept_world e _
  | tcp port =>
    simp only [check, checkTcp]
    cases e.address i port with
    | error f => exact .refl e
    | ok address => exact kept_world e _
  | command c =>
    have hk : Kept e (exec b i c .none e).2 := exec_kept hn
    simp only [check, checkCommand]
    split <;> exact hk

theorem attempted_kept {n : Nat} (hn : ∀ j < n, probeHalts b i (attempted b net i p e j) p = []) :
    Kept e (attempted b net i p e n) := by
  induction n with
  | zero => exact .refl e
  | succ n ih =>
    have hbefore := ih fun j hj => hn j (Nat.lt_succ_of_lt hj)
    exact hbefore.trans (check_kept (hn n (Nat.lt_succ_self n)))

theorem readyRound_eq_inr {last f : Failure} (h : readyRound b net i p last e = (.inr f, e')) :
    e.isRunning i = true ∧ check b net i p e = (.error f, e') := by
  unfold readyRound at h
  cases hrun : e.isRunning i with
  | false => simp [hrun] at h
  | true =>
    rcases hc : check b net i p e with ⟨g | u, e₁⟩
    · simp only [hrun, hc] at h
      cases h
      exact ⟨rfl, rfl⟩
    · simp [hrun, hc] at h

theorem readyRound_eq_inl_error {last f : Failure}
    (h : readyRound b net i p last e = (.inl (.error f), e')) : e' = e := by
  unfold readyRound at h
  cases hrun : e.isRunning i with
  | false =>
    simp only [hrun] at h
    cases h
    rfl
  | true => rcases hc : check b net i p e with ⟨g | u, e₁⟩ <;> simp [hrun, hc] at h

theorem failFirst_of_unsettled {first last : Failure} {n : Nat}
    (h : Unsettled (readyRound b net i p) first e n last e') :
    FailFirst b net i p e n ∧ e' = attempted b net i p e n := by
  induction h with
  | start => exact ⟨fun j hj => absurd hj (Nat.not_lt_zero j), rfl⟩
  | @next n _ _ _ _ _ hlast ih =>
    obtain ⟨hfail, rfl⟩ := ih
    obtain ⟨hrun, hc⟩ := readyRound_eq_inr hlast
    refine ⟨?_, ?_⟩
    · intro j hj
      rcases Nat.lt_succ_iff_lt_or_eq.mp hj with hj | rfl
      · exact hfail j hj
      · exact ⟨hrun, by rw [attempt, hc]; rfl⟩
    · rw [attempted, Act.after, hc]

theorem paced_of_failed {policy : Policy} {x : Polled (Except Failure Unit) Failure}
    (h : paced policy (readyRound b net i p) noAttempt e = (x, e')) (hx : x ≠ .settled (.ok ())) :
    ∃ n ≤ policy.attempts, FailFirst b net i p e n ∧ e' = attempted b net i p e n := by
  obtain ⟨n, last, e₁, hn, hun, hcases⟩ := paced_cases policy (readyRound b net i p) noAttempt e
  obtain ⟨hfail, rfl⟩ := failFirst_of_unsettled hun
  refine ⟨n, hn, hfail, ?_⟩
  rcases hcases with ⟨-, -, a, e₂, hround, hwait⟩ | hwait | hwait <;> rw [hwait] at h <;> cases h
  · cases a with
    | ok u => exact absurd rfl hx
    | error f => exact readyRound_eq_inl_error hround
  · rfl
  · rfl

theorem waitReady_kept (h : waitReady b net i e = (.error f, e'))
    (hn : ∀ r, e.runnables[i]? = some r → ∀ p, r.options.readiness = some p →
      ∀ n < r.policy.attempts, FailFirst b net i p e n →
        probeHalts b i (attempted b net i p e n) p = []) :
    Kept e e' := by
  unfold waitReady at h
  cases hi : e.runnables[i]? with
  | none =>
    simp only [hi] at h
    cases h
    exact .refl e
  | some r =>
    simp only [hi] at h
    split at h
    · cases h
      exact .refl e
    · cases hp : r.options.readiness with
      | none => simp [hp] at h
      | some p =>
        simp only [hp] at h
        rcases hwait : paced r.policy (readyRound b net i p) noAttempt e with ⟨x, e₁⟩
        have hx : x ≠ .settled (.ok ()) := by
          rintro rfl
          simp [hwait] at h
        have heq : e' = e₁ := by
          rw [hwait] at h
          cases x <;> exact (Prod.mk.inj h).2.symm
        obtain ⟨n, hle, hfail, rfl⟩ := paced_of_failed hwait hx
        rw [heq]
        -- an attempt before the last one comes after failures only
        refine attempted_kept fun j hj => hn r hi p hp j (Nat.lt_of_lt_of_le hj hle) ?_
        exact fun k hk => hfail k (Nat.lt_trans hk hj)

theorem start_kept (h : start b net i e = (.error f, e'))
    (hn : ∀ r, e.runnables[i]? = some r → e.closed = false → r.lifecycle.isRunning = false →
      (launching b i r e).1.closing = false) : Kept e e' := by
  cases ho : e.closed with
  | true =>
    rw [start_of_closed b net ho] at h
    cases h
    exact .refl e
  | false =>
    cases hr : e.runnables[i]? with
    | none =>
      simp only [start, ho, hr] at h
      cases h
      exact .refl e
    | some r =>
      cases hrun : r.lifecycle.isRunning with
      | true =>
        simp only [start, ho, hr, hrun] at h
        cases h
        exact .refl e
      | false =>
        rcases hm : launching b i r e with ⟨l, m⟩
        have hclosing : l.closing = false := by simpa [hm] using hn r hr ho hrun
        have hopen : m.closed = false := (launching_frame b hm).2.1.trans ho
        cases hl : l.result with
        | error g =>
          have hs : start b net i e = (.error g, m) := by
            simp [start, launch, ho, hr, hrun, hm, hl, hclosing]
          rw [hs] at h
          cases h
          exact launching_kept hm
        | ok w =>
          -- what comes up in an open environment is started
          have hs : (start b net i e).1 = .ok () := by
            simp [start, launch, ho, hr, hrun, hm, hl, hclosing, update, hopen]
          rw [h] at hs
          cases hs

theorem halt_kept {how : Halt} (h : halt b how i e = (.error f, e')) : Kept e e' := by
  rcases halt_cases b how i e with ⟨e₁, heq, -⟩ | ⟨g, e₁, heq, hk⟩
  · rw [heq] at h
    cases h
  · rw [heq] at h
    cases h
    exact hk

end Commands

theorem reserve_kept {name : String} {e e' : Environment σ κ}
    (h : reserve name e = (.error f, e')) : Kept e e' := by
  rcases reserve_cases name e with ⟨-, heq⟩ | ⟨-, -, heq⟩ | ⟨-, -, -, heq⟩ | ⟨-, -, -, heq⟩ <;>
    cases heq.symm.trans h
  all_goals exact .refl e

theorem initialise_kept {future : Future} {o : Options} {e e' : Environment σ κ}
    (h : initialise future o e = (.error f, e')) : Kept e e' := by
  unfold initialise at h
  dsimp only at h
  split at h
  · cases h
    exact .refl e
  · cases h

section Requests

variable (b : Backend σ κ) (net : Network σ)

def outcome (e : Environment σ κ) : Request → Except Failure Unit
  | .reserve name => (reserve name e).1.map fun _ => ()
  | .settle r => (settle r e).1.map fun _ => ()
  | .initialise f o => (initialise f o e).1.map fun _ => ()
  | .start i => (start b net i e).1
  | .halt how i => (halt b how i e).1
  | .exec i c sinks => (exec b i c sinks e).1.result.map fun _ => ()
  | .waitReady i => (waitReady b net i e).1
  | .addListener _ | .addCloser _ _ | .close | .drop => .ok ()

/-- Whether what a request sets going acts on the environment: the launch of a start closes it,
or a command, which may be that of a probe, halts its runnable. -/
def meddles (e : Environment σ κ) : Request → Bool
  | .start i => e.runnables[i]?.any fun r =>
    !e.closed && !r.lifecycle.isRunning && (launching b i r e).1.closing
  | .exec i c sinks => !(commandHalts b i c sinks e).isEmpty
  | .waitReady i => e.runnables[i]?.any fun r => r.options.readiness.any fun p =>
    (List.range r.policy.attempts).any fun n =>
      FailFirst b net i p e n && !(probeHalts b i (attempted b net i p e n) p).isEmpty
  | _ => false

variable {b net}

theorem eq_error_of_map {α : Type} {x : Except Failure α}
    (h : (x.map fun _ => ()) = .error f) : x = .error f := by
  cases x with
  | error g =>
    cases h
    rfl
  | ok a => cases h

/-- A request that fails leaves the runnables, the reserved names, the started list, the closers
and the closed flag as they are, and tells no listener. -/
theorem kept_of_failed {r : Request} (hf : e.outcome b net r = .error f)
    (hn : e.meddles b net r = false) : Kept e (r.apply b net e) := by
  cases r with
  | reserve name => exact reserve_kept (Prod.ext (eq_error_of_map hf) rfl)
  | settle r => exact settle_kept r e
  | initialise future o => exact initialise_kept (Prod.ext (eq_error_of_map hf) rfl)
  | start i =>
    refine start_kept (Prod.ext hf rfl) fun r hr ho hrun => ?_
    simpa [meddles, hr, ho, hrun] using hn
  | halt how i => exact halt_kept (Prod.ext hf rfl)
  | exec i c sinks => exact exec_kept (by simpa [meddles] using hn)
  | waitReady i =>
    refine waitReady_kept (Prod.ext hf rfl) fun r hi p hp n hlt hfail => ?_
    have hall : ∀ m < r.policy.attempts, FailFirst b net i p e m →
        probeHalts b i (attempted b net i p e m) p = [] := by
      simpa [meddles, hi, hp] using hn
    exact hall n hlt hfail
  | addListener id => cases hf
  | addCloser id requests => cases hf
  | close => cases hf
  | drop => cases hf

def troubled : List Request :=
  [.reserve "a", .initialise ⟨"a", .empty⟩ (.ofImage "image"),
    .initialise ⟨"b", .empty⟩ { Options.ofImage "image" with
      readiness := some (.command ⟨"false", [], false⟩)
      backoff := some ⟨.ofMillis 1, .ofMillis 1, 2⟩ },
    .addListener "watch", .start 1]

def failing : List Request :=
  [.reserve "a", .initialise ⟨"c", .empty⟩ (.ofImage ""), .start 0, .start 1, .halt .stop 1,
    .exec 1 ⟨"false", [], false⟩ .none, .waitReady 0, .waitReady 1]

theorem kept_of_failed_troubled : ∃ e : Environment StandIn.State String,
    e.Reachable StandIn.backend StandIn.network ∧ e.started = [1] ∧ e.listeners = ["watch"] ∧
    ∀ r ∈ failing, (∃ f, e.outcome StandIn.backend StandIn.network r = .error f) ∧
      Kept e (r.apply StandIn.backend StandIn.network e) := by
  obtain ⟨e, hr, hp⟩ := exists_reachable StandIn.backend StandIn.network (.ofName "bed") "/tmp"
    "Ab3dE9" ⟨.empty, .empty, { StandIn.State.empty with
      staging := { StandIn.Staging.empty with launchFails := ["a"], haltFails := ["b"] } }⟩
    troubled
    (fun e => e.started = [1] ∧ e.listeners = ["watch"] ∧
      failing.all fun r => !(e.outcome StandIn.backend StandIn.network r).isOk &&
        !e.meddles StandIn.backend StandIn.network r) (by decide +kernel)
  obtain ⟨hs, hl, hall⟩ := of_decide_eq_true hp
  refine ⟨e, hr, hs, hl, fun r hm => ?_⟩
  have h := List.all_eq_true.mp hall r hm
  rw [Bool.and_eq_true, Bool.not_eq_true', Bool.not_eq_true'] at h
  obtain ⟨hout, hn⟩ := h
  cases hf : e.outcome StandIn.backend StandIn.network r with
  | ok u =>
    rw [hf] at hout
    cases hout
  | error f => exact ⟨⟨f, rfl⟩, kept_of_failed hf hn⟩

end Requests

end Environment

end Testbed
