import Testbed.Proofs.Faithful
import Testbed.Proofs.Lasting

/-!
Properties that hold of an environment all its life. Beside the changes that a closed environment
still goes through, an open one is registered with, is closed, and has runnables that take the
workloads which the backend launched for them. Whatever is asked of a closed one, it stays closed.
-/
namespace Testbed

open Environment

variable {σ κ : Type} {P : Environment σ κ → Prop} {b : Backend σ κ}
  {e e' e'' : Environment σ κ} {i : Nat} {r : Runnable κ} {w : Workload κ}

namespace Environment

structure Enduring (b : Backend σ κ) (P : Environment σ κ → Prop) : Prop extends Lasting P where
  registry : ∀ {e} started listeners closers closed history, P e →
    P { e with started, listeners, closers, closed, history }
  taken : ∀ {e : Environment σ κ} {i : Nat} {r w} world, e.runnables[i]? = some r →
    (b.launch ⟨e.scope, r.name, r.ports, r.options⟩ world).1.result = .ok w → P e →
    P (e.update i (markRunning w))

theorem Enduring.close (hP : Enduring b P) (net : Network σ) (he : P e) : P (close b net e) := by
  cases ho : e.closed with
  | true =>
    rw [close_of_closed b net ho]
    exact he
  | false => exact hP.toLasting.close b net ho (hP.registry [] [] [] true e.history he)

theorem Enduring.register (hP : Enduring b P) (he : P e) (i : Nat) : P (e.register i) :=
  hP.registry (e := e) (e.started ++ [i]) e.listeners e.closers e.closed (e.register i).history he

/-- The scope is the same, and the runnables are the same but for what they run. -/
structure Retains (e e' : Environment σ κ) : Prop where
  scope : e'.scope = e.scope
  runnables : ∀ (i : Nat) (r : Runnable κ), e.runnables[i]? = some r →
    ∃ lifecycle workload, e'.runnables[i]? = some { r with lifecycle, workload }

theorem Retains.of_eq (hs : e'.scope = e.scope) (hr : e'.runnables = e.runnables) :
    Retains e e' where
  scope := hs
  runnables i r hi := ⟨r.lifecycle, r.workload, by rw [hr, hi]⟩

theorem Retains.refl (e : Environment σ κ) : Retains e e := .of_eq rfl rfl

theorem Retains.trans (h : Retains e e') (h' : Retains e' e'') : Retains e e'' where
  scope := h'.scope.trans h.scope
  runnables i r hi := by
    obtain ⟨l, w, hi'⟩ := h.runnables i r hi
    obtain ⟨l', w', hi''⟩ := h'.runnables i _ hi'
    exact ⟨l', w', hi''⟩

theorem retains_update {f : Runnable κ → Runnable κ}
    (hf : ∀ r : Runnable κ, ∃ lifecycle workload, f r = { r with lifecycle, workload }) (i : Nat)
    (e : Environment σ κ) : Retains e (e.update i f) where
  scope := rfl
  runnables j r hj := by
    rw [getElem?_update]
    split
    · obtain ⟨l, w, hr⟩ := hf r
      exact ⟨l, w, by rw [hj, Option.map_some, hr]⟩
    · exact ⟨r.lifecycle, r.workload, hj⟩

theorem markReady_retains (r : Runnable κ) :
    ∃ lifecycle workload, markReady r = { r with lifecycle, workload } := by
  unfold markReady
  split
  · exact ⟨.ready, r.workload, rfl⟩
  · exact ⟨r.lifecycle, r.workload, rfl⟩

theorem initialise_retains (f : Future) (o : Options) (e : Environment σ κ) :
    Retains e ((initialise f o).after e) := by
  obtain ⟨rs, heq, -⟩ := initialise_after f o e
  rw [heq]
  refine ⟨rfl, fun i r hi => ⟨r.lifecycle, r.workload, ?_⟩⟩
  have hlt : i < e.runnables.length := (List.getElem?_eq_some_iff.mp hi).1
  dsimp only
  rw [List.getElem?_append_left hlt, hi]

theorem Struck.retains (h : Struck i e e') : Retains e e' := by
  have hu : Retains e (e.update i markStopped) :=
    retains_update (fun r => ⟨.stopped, none, rfl⟩) i e
  refine hu.trans (.of_eq ?_ ?_)
  · rw [h.rest]
    rfl
  · rw [h.rest]
    rfl

theorem enduring_retains (b : Backend σ κ) (e₀ : Environment σ κ) : Enduring b (Retains e₀) where
  kept hk h := by
    rw [hk.rest]
    exact h.trans (.of_eq rfl rfl)
  struck hs h := h.trans hs.retains
  ready i h := h.trans (retains_update markReady_retains i _)
  initialised f o h := h.trans (initialise_retains f o _)
  aside _ _ _ h := h.trans (.of_eq rfl rfl)
  registry _ _ _ _ _ h := h.trans (.of_eq rfl rfl)
  taken {_ i _ w} _ _ _ h := h.trans (retains_update (fun r => ⟨.running, some w, rfl⟩) i _)

variable {l : Launching κ} {m : Environment σ κ}

theorem launching_kept (hm : launching b i r e = (l, m)) : Kept e m := by
  rw [launching_eq b hm]
  exact (kept_world e m.world).trans
    (kept_record (x := .launched i l.result.toOption) rfl _)

variable (net : Network σ)

theorem Enduring.launch (hP : Enduring b P) (he : P e) : P (launch b net i r e).2 := by
  have hm : P (launching b i r e).2 := hP.kept (launching_kept (e := e) rfl) he
  unfold Environment.launch
  dsimp only
  split
  · exact hP.close net hm
  · exact hm

theorem Enduring.launch_taken (hP : Enduring b P) (he : P e) (hi : e.runnables[i]? = some r)
    (hw : (Environment.launch b net i r e).1 = .ok w) :
    P ((Environment.launch b net i r e).2.update i (markRunning w)) := by
  have hl := (enduring_retains b e).launch net (i := i) (r := r) (.refl e)
  obtain ⟨lifecycle, workload, hi'⟩ := hl.runnables i r hi
  refine hP.taken e.world hi' ?_ (hP.launch net he)
  rw [hl.scope]
  exact hw

theorem Enduring.start (hP : Enduring b P) (he : P e) (i : Nat) :
    P ((start b net i).after e) := by
  unfold Act.after Environment.start
  split
  · exact he
  · exact he
  · next r _ hi =>
    split
    · exact he
    · have hl : P (Environment.launch b net i r e).2 := hP.launch net he
      have ht := fun w => hP.launch_taken net (w := w) he hi
      rcases hm : Environment.launch b net i r e with ⟨f | w, e₁⟩
      · rwa [hm] at hl
      · have hw : P (e₁.update i (markRunning w)) := by
          have h := ht w
          rw [hm] at h
          exact h rfl
        dsimp only
        split
        · exact hP.handled (halt_handled b .kill i _) hw
        · exact hP.register hw i

theorem Enduring.addCloser (hP : Enduring b P) (he : P e) (id : String)
    (requests : List Request) : P (addCloser b net id requests e) := by
  unfold Environment.addCloser
  dsimp only
  split
  · exact hP.toLasting.runCloser b net _ he
  · exact hP.registry e.started e.listeners _ e.closed e.history he

theorem Enduring.apply (hP : Enduring b P) (he : P e) (r : Request) : P (r.apply b net e) := by
  cases r with
  | start i => exact hP.start net he i
  | addCloser id requests => exact hP.addCloser net he id requests
  | close => exact hP.close net he
  | drop => exact hP.close net he
  | _ => exact hP.toLasting.applyClosed b net _ e he

theorem Enduring.run (hP : Enduring b P) (he : P e) (rs : List Request) : P (run b net rs e) := by
  induction rs generalizing e with
  | nil => exact he
  | cons r rs ih => exact ih (hP.apply net he r)

theorem run_retains (b : Backend σ κ) (e : Environment σ κ) (rs : List Request) :
    Retains e (run b net rs e) :=
  (enduring_retains b e).run net (.refl e) rs

theorem close_scope (b : Backend σ κ) (e : Environment σ κ) :
    (close b net e).scope = e.scope :=
  ((enduring_retains b e).close net (.refl e)).scope

variable {net}

theorem Reachable.enduring (hP : Enduring b P)
    (h₀ : ∀ c dir world, P { initial c dir world with history := [.scopeCreated true] })
    (hr : e.Reachable b net) : P e := by
  obtain ⟨c, temp, suffix, world, e₀, rs, hc, rfl⟩ := hr
  obtain ⟨dir, world', rfl⟩ := create_eq_ok b net hc
  exact hP.run net (h₀ c dir world') rs

theorem lasting_closed : Lasting fun e : Environment σ κ => e.closed = true :=
  lasting_of_frame (fun _ _ _ _ hc => hc) fun _ _ _ hc => hc

theorem close_closed (b : Backend σ κ) (net : Network σ) (e : Environment σ κ) :
    (close b net e).closed = true := by
  cases ho : e.closed with
  | true => rw [close_of_closed b net ho, ho]
  | false => exact lasting_closed.close b net ho rfl

theorem run_of_closed (hc : e.closed = true) (rs : List Request) :
    run b net rs e = Request.applyAllClosed b net rs e := by
  induction rs generalizing e with
  | nil => rfl
  | cons r rs ih =>
    have hnext : (r.applyClosed b net e).closed = true := lasting_closed.applyClosed b net r e hc
    rw [Request.applyAllClosed, ← ih hnext, ← r.apply_of_closed b net hc]
    rfl

end Environment

end Testbed
