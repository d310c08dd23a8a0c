import Testbed.Proofs.Enduring

/-!
Runnables keep what they were initialised with: their options passed the checks, and they wait
for readiness by the policy of their options or else by that of their environment.
-/
namespace Testbed

open Environment

variable {σ κ : Type} {c : Config} {e : Environment σ κ} {r : Runnable κ}

theorem Policy.attempts_of_check {p : Policy} (h : p.check = .ok ()) :
    p.attempts = p.retries := by
  unfold Policy.check at h
  split at h
  · cases h
  · rw [Policy.attempts]
    omega

theorem Environment.check_of_checkOptions {f : Future} {o : Options} {p : Policy}
    (h : checkOptions f o p = .ok ()) : p.check = .ok () := by
  unfold checkOptions at h
  simp only [bind, Except.bind] at h
  split at h
  · cases h
  · split at h
    · split at h
      · cases h
      · exact h
    · exact h

structure Runnable.Accepted (c : Config) (r : Runnable κ) : Prop where
  policy : r.policy = r.options.backoff.getD c.readyBackoff
  checked : checkOptions ⟨r.name, r.ports⟩ r.options r.policy = .ok ()

theorem Runnable.Accepted.attempts (h : r.Accepted c) :
    r.policy.attempts = (r.options.backoff.getD c.readyBackoff).retries := by
  rw [Policy.attempts_of_check (check_of_checkOptions h.checked), h.policy]

namespace Environment

def Consistent (c : Config) (e : Environment σ κ) : Prop :=
  e.config = c ∧ ∀ r ∈ e.runnables, r.Accepted c

theorem Consistent.initialise (h : Consistent c e) (f : Future) (o : Options) :
    Consistent c ((initialise f o).after e) := by
  obtain ⟨hc, hr⟩ := h
  unfold Act.after Environment.initialise
  dsimp only
  cases hk : checkOptions f o (o.backoff.getD e.config.readyBackoff) with
  | error g => exact ⟨hc, hr⟩
  | ok u =>
    refine ⟨hc, ?_⟩
    intro r hm
    rcases List.mem_append.mp hm with hm | hm
    · exact hr r hm
    · rw [List.mem_singleton.mp hm]
      exact ⟨by rw [hc], hk⟩

theorem Consistent.update (h : Consistent c e) {f : Runnable κ → Runnable κ}
    (hf : ∀ r : Runnable κ, r.Accepted c → (f r).Accepted c) (i : Nat) :
    Consistent c (e.update i f) :=
  ⟨h.1, forall_update h.2 fun r _ ha => hf r ha⟩

theorem enduring_consistent (b : Backend σ κ) (c : Config) :
    Enduring b (Consistent (σ := σ) (κ := κ) c) where
  kept hk h := by
    rw [hk.rest]
    exact h
  struck {i _ _} hs h := by
    have hu := h.update (f := markStopped) (fun _ ha => ⟨ha.policy, ha.checked⟩) i
    rw [hs.rest]
    exact hu
  ready i h := by
    refine h.update (fun r ha => ?_) i
    unfold markReady
    split
    · exact ⟨ha.policy, ha.checked⟩
    · exact ha
  initialised f o h := h.initialise f o
  aside _ _ _ h := h
  registry _ _ _ _ _ h := h
  taken {_ i _ w} _ _ _ h := h.update (f := markRunning w) (fun _ ha => ⟨ha.policy, ha.checked⟩) i

variable {b : Backend σ κ} {net : Network σ}

theorem Reachable.accepted (hr : e.Reachable b net) :
    ∀ r ∈ e.runnables, r.Accepted e.config := by
  obtain ⟨c, temp, suffix, world, e₀, rs, hc, rfl⟩ := hr
  obtain ⟨dir, world', rfl⟩ := create_eq_ok b net hc
  have hrun : Consistent c (run b net rs _) :=
    (enduring_consistent b c).run net (e := { initial c dir world' with
      history := [.scopeCreated true] }) ⟨rfl, by simp [initial]⟩ rs
  rw [hrun.1]
  exact hrun.2

end Environment

end Testbed
