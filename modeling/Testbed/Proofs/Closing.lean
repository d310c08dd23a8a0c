import Testbed.Proofs.Evolution

/-!
Closing, as far as histories tell of it: a closed environment launches nothing and lists nothing,
and a close that takes effect runs the closers, kills what was listed, destroys the scope and
gives up the directory.
-/
namespace Testbed

open Environment History

variable {σ κ : Type} {e e' e'' : Environment σ κ} {g h : List (Happening κ)}
  {i : Nat} {w : Workload κ}

namespace Environment

structure Shut (e : Environment σ κ) : Prop where
  closed : e.closed = true
  started : e.started = []
  closers : e.closers = []

/-- An environment gets to a closed state and launches nothing on the way. -/
structure Winds (e e' : Environment σ κ) (h : List (Happening κ)) : Prop
    extends Evolves e e' h where
  shut : e'.Shut
  launchless : Launchless h

theorem Winds.refl (hh : e.Held) (hs : e.Shut) : Winds e e [] where
  toEvolves := .refl hh
  shut := hs
  launchless := by simp [Launchless]

theorem Winds.trans (hw : Winds e e' g) (hw' : Winds e' e'' h) : Winds e e'' (g ++ h) where
  toEvolves := hw.toEvolves.trans hw'.toEvolves
  shut := hw'.shut
  launchless := launchless_append.mpr ⟨hw.launchless, hw'.launchless⟩

theorem Winds.workloads_eq_or_none (hw : Winds e e' h) (i : Nat) :
    e'.workloads i = e.workloads i ∨ e'.workloads i = none := by
  rw [hw.workloads]
  exact live_eq_or_none hw.launchless i

theorem listed_of_launchless {names : Nat → String} (hl : Launchless h) :
    listed names [] h = [] := by
  induction h with
  | nil => rfl
  | cons x h ih =>
    have hx : x.relist names [] = [] := by
      refine List.eq_nil_iff_forall_not_mem.mpr fun i hi => ?_
      rcases Happening.mem_relist.mp hi with hi | ⟨hi, -⟩
      · rw [Happening.launches_of_isLaunch (hl x List.mem_cons_self)] at hi
        cases hi
      · cases hi
    rw [listed_cons, hx]
    exact ih fun y hy => hl y (List.mem_cons_of_mem x hy)

theorem Calm.winds (hc : Calm e e' h) (hs : e.Shut) : Winds e e' h where
  toEvolves := hc.toEvolves
  shut := {
    closed := hc.closed.trans hs.closed
    started := by rw [hc.started, hs.started, listed_of_launchless hc.launchless]
    closers := hc.closers.trans hs.closers }
  launchless := hc.launchless

variable (b : Backend σ κ) (net : Network σ)

theorem initialise_winds (hh : e.Held) (hs : e.Shut) (f : Future) (o : Options) :
    Winds e ((initialise f o).after e) [] where
  toEvolves := initialise_evolves hh f o
  shut := by
    obtain ⟨rs, heq, -⟩ := initialise_after f o e
    rw [heq]
    exact ⟨hs.closed, hs.started, hs.closers⟩
  launchless := by simp [Launchless]

end Environment

variable (b : Backend σ κ) (net : Network σ)

mutual

theorem Request.applyClosed_winds :
    (r : Request) → (e : Environment σ κ) → e.Held → e.Shut →
      ∃ h, Winds e (r.applyClosed b net e) h
  | .reserve name, _, hh, hs => ⟨_, (reserve_calm hh name).winds hs⟩
  | .settle r, _, hh, hs => ⟨_, (settle_calm hh r).winds hs⟩
  | .initialise f o, _, hh, hs => ⟨_, initialise_winds hh hs f o⟩
  | .halt how i, _, hh, hs =>
    have ⟨h, hc⟩ := halt_calm b hh how i
    ⟨h, hc.winds hs⟩
  | .exec i c sinks, _, hh, hs =>
    have ⟨h, hc⟩ := exec_calm b hh i c sinks
    ⟨h, hc.winds hs⟩
  | .waitReady i, _, hh, hs =>
    have ⟨h, hc⟩ := waitReady_calm b net hh i
    ⟨h, hc.winds hs⟩
  | .addListener id, _, hh, hs => ⟨_, (addListener_calm hh id).winds hs⟩
  | .addCloser id requests, e, hh, hs => by
    have hw := (noteCloser_calm hh ⟨id, e.runnables.length, requests⟩).winds hs
    obtain ⟨h, ha⟩ := Request.applyAllClosed_winds requests _ hw.held hw.shut
    exact ⟨_, hw.trans ha⟩
  | .start _, _, hh, hs => ⟨[], .refl hh hs⟩
  | .close, _, hh, hs => ⟨[], .refl hh hs⟩
  | .drop, _, hh, hs => ⟨[], .refl hh hs⟩

theorem Request.applyAllClosed_winds :
    (rs : List Request) → (e : Environment σ κ) → e.Held → e.Shut →
      ∃ h, Winds e (Request.applyAllClosed b net rs e) h
  | [], _, hh, hs => ⟨[], .refl hh hs⟩
  | r :: rs, e, hh, hs => by
    obtain ⟨g, hg⟩ := Request.applyClosed_winds r e hh hs
    obtain ⟨h, hw⟩ := Request.applyAllClosed_winds rs _ hg.held hg.shut
    exact ⟨g ++ h, hg.trans hw⟩

end

namespace Environment

theorem sealed_winds (hh : e.Held) : Winds e e.sealed [] where
  toEvolves := { Evolves.refl hh with held := hh, history := by simp [sealed] }
  shut := ⟨rfl, rfl, rfl⟩
  launchless := by simp [Launchless]

theorem foldl_winds {α : Type} {step : Environment σ κ → α → Environment σ κ}
    (hstep : ∀ e a, e.Held → e.Shut → ∃ h, Winds e (step e a) h) (hh : e.Held) (hs : e.Shut)
    (l : List α) : ∃ h, Winds e (l.foldl step e) h := by
  induction l generalizing e with
  | nil => exact ⟨[], .refl hh hs⟩
  | cons a l ih =>
    obtain ⟨g, hg⟩ := hstep e a hh hs
    obtain ⟨h, hw⟩ := ih hg.held hg.shut
    exact ⟨g ++ h, hg.trans hw⟩

theorem runCloser_winds (hh : e.Held) (hs : e.Shut) (c : Closer) :
    ∃ h, Winds e (e.runCloser b net c) h := by
  have hw := (noteCloser_calm hh c).winds hs
  obtain ⟨h, ha⟩ := Request.applyAllClosed_winds b net c.requests _ hw.held hw.shut
  exact ⟨_, hw.trans ha⟩

theorem runClosers_winds (hh : e.Held) : ∃ h, Winds e (e.runClosers b net) h := by
  have hw := sealed_winds hh
  obtain ⟨h, hf⟩ :=
    foldl_winds (fun _ c hh hs => runCloser_winds b net hh hs c) hw.held hw.shut e.closers
  exact ⟨_, hw.trans hf⟩

theorem killAll_winds (hh : e.Held) (hs : e.Shut) (l : List Nat) :
    ∃ h, Winds e (killAll b l e) h := by
  refine foldl_winds (fun e i hh hs => ?_) hh hs l
  obtain ⟨h, hc⟩ := halt_calm b hh .kill i
  exact ⟨h, hc.winds hs⟩

theorem destroyScope_winds (hh : e.Held) (hs : e.Shut) :
    Winds e (destroyScope b e) [.scopeDestroyed] := by
  have hc := calm_world hh (b.destroyScope e.scope e.world)
  have hx := calm_record (x := .scopeDestroyed) hc.held trivial rfl (fun _ => rfl)
    (by simp [Within, Happening.runnable?])
  exact (hc.trans hx).winds hs

theorem release_winds (hh : e.Held) (hs : e.Shut) :
    Winds e e.release [.released !e.config.keepDir] := by
  have hc := calm_world hh e.release.world
  have hx := calm_record (x := .released !e.config.keepDir) hc.held trivial rfl (fun _ => rfl)
    (by simp [Within, Happening.runnable?])
  exact (hc.trans hx).winds hs

theorem close_of_closed (hc : e.closed = true) : close b net e = e := by
  simp [close, hc]

theorem start_of_closed (hc : e.closed = true) (i : Nat) :
    start b net i e = (.error (.environmentClosed e.name), e) := by
  simp [start, hc]

theorem addCloser_of_closed (hc : e.closed = true) (id : String) (requests : List Request) :
    addCloser b net id requests e = e.runCloser b net ⟨id, e.runnables.length, requests⟩ := by
  simp [addCloser, hc]

theorem close_of_open (ho : e.closed = false) :
    close b net e =
      (destroyScope b (killAll b e.started.reverse (e.runClosers b net))).release := by
  simp [close, ho]

theorem close_winds (hh : e.Held) (ho : e.closed = false) :
    ∃ h, Winds e (close b net e) h := by
  obtain ⟨g, hg⟩ := runClosers_winds b net hh
  obtain ⟨h, hk⟩ := killAll_winds b hg.held hg.shut e.started.reverse
  have hd := destroyScope_winds b hk.held hk.shut
  rw [close_of_open b net ho]
  exact ⟨_, hg.trans (hk.trans (hd.trans (release_winds hd.held hd.shut)))⟩

end Environment

theorem Request.apply_of_closed (hc : e.closed = true) (r : Request) :
    r.apply b net e = r.applyClosed b net e := by
  cases r with
  | start i =>
    rw [Request.apply, Act.after, start_of_closed b net hc]
    rfl
  | addCloser id requests => exact addCloser_of_closed b net hc id requests
  | close => exact close_of_closed b net hc
  | drop => exact close_of_closed b net hc
  | _ => rfl

theorem Request.apply_winds (hh : e.Held) (hs : e.Shut) (r : Request) :
    ∃ h, Winds e (r.apply b net e) h := by
  rw [r.apply_of_closed b net hs.closed]
  exact r.applyClosed_winds b net e hh hs

theorem Environment.run_winds (hh : e.Held) (hs : e.Shut) (rs : List Request) :
    ∃ h, Winds e (run b net rs e) h :=
  foldl_winds (fun _ r hh hs => r.apply_winds b net hh hs) hh hs rs

end Testbed
