import Testbed.Proofs.Evolution
import Testbed.Proofs.Pacing

/-!
What acting on one runnable leaves of its environment. A halt, a command and a probe of a
runnable either leave the runnables and the list of started ones as they are and tell nobody of
anything, or the runnable stops, its name leaves the list, and the listeners are told if that
changes the list.
-/
namespace Testbed

variable {σ κ : Type}

def Happening.notice? : Happening κ → Option (String × List (Nat × Option Lifecycle))
  | .notified listener started => some (listener, started)
  | _ => none

namespace Environment

variable {e e' e'' : Environment σ κ} {x : Happening κ} {i : Nat} {r : Runnable κ}

def notices (e : Environment σ κ) : List (String × List (Nat × Option Lifecycle)) :=
  e.history.filterMap Happening.notice?

def tidings (e : Environment σ κ) : List (String × List (Nat × Option Lifecycle)) :=
  e.listeners.map fun l => (l, e.snapshot)

theorem notices_record (hx : x.notice? = none) (e : Environment σ κ) :
    (e.record x).notices = e.notices := by
  simp [notices, record, hx]

theorem notices_notify (e : Environment σ κ) : e.notify.notices = e.notices ++ e.tidings := by
  simp [notices, notify, tidings, List.filterMap_append, List.filterMap_map, Function.comp_def,
    Happening.notice?]

theorem notices_register (i : Nat) (e : Environment σ κ) :
    (e.register i).notices = e.notices ++ (e.register i).tidings :=
  notices_notify _

theorem unregister_frame (name : String) (e : Environment σ κ) :
    e.unregister name = { e with
      started := e.started.filter fun i => e.nameOf i ≠ name
      history := (e.unregister name).history } := by
  obtain ⟨notes, -, heq⟩ := unregister_eq name e
  rw [heq]

theorem notices_unregister (name : String) (e : Environment σ κ) :
    (e.unregister name).notices = e.notices ++
      if (e.unregister name).started = e.started then [] else (e.unregister name).tidings := by
  unfold unregister
  dsimp only
  split
  · simp
  · next hlen =>
    have hne : e.started.filter (fun i => e.nameOf i ≠ name) ≠ e.started :=
      fun h => hlen (congrArg List.length h)
    exact (notices_notify _).trans (congrArg _ (if_neg hne).symm)

structure Kept (e e' : Environment σ κ) : Prop where
  rest : e' = { e with world := e'.world, history := e'.history }
  notices : e'.notices = e.notices

structure Struck (i : Nat) (e e' : Environment σ κ) : Prop where
  running : e.isRunning i = true
  rest : e' = { e with
    world := e'.world
    history := e'.history
    runnables := e.runnables.modify i markStopped
    started := e.started.filter fun j => e.nameOf j ≠ e.nameOf i }
  notices : e'.notices = e.notices ++ if e'.started = e.started then [] else e'.tidings

def Handled (i : Nat) (e e' : Environment σ κ) : Prop := Kept e e' ∨ Struck i e e'

theorem isRunning_of_lifecycle? {l : Lifecycle} (h : e.lifecycle? i = some l) :
    e.isRunning i = l.isRunning := by
  simp [Environment.isRunning, h]

theorem isRunning_of_getElem? (hi : e.runnables[i]? = some r) :
    e.isRunning i = r.lifecycle.isRunning := by
  simp [Environment.isRunning, Environment.lifecycle?, hi]

theorem Kept.refl (e : Environment σ κ) : Kept e e := ⟨rfl, rfl⟩

theorem Kept.trans (h : Kept e e') (h' : Kept e' e'') : Kept e e'' where
  rest := by rw [h'.rest, h.rest]
  notices := h'.notices.trans h.notices

theorem Kept.runnables (h : Kept e e') : e'.runnables = e.runnables := by rw [h.rest]

theorem Kept.started (h : Kept e e') : e'.started = e.started := by rw [h.rest]

theorem Kept.listeners (h : Kept e e') : e'.listeners = e.listeners := by rw [h.rest]

theorem Kept.lifecycle? (h : Kept e e') (j : Nat) : e'.lifecycle? j = e.lifecycle? j := by
  simp [Environment.lifecycle?, h.runnables]

theorem Kept.isRunning (h : Kept e e') (j : Nat) : e'.isRunning j = e.isRunning j := by
  simp [Environment.isRunning, h.lifecycle?]

theorem Kept.nameOf (h : Kept e e') (j : Nat) : e'.nameOf j = e.nameOf j := by
  simp [Environment.nameOf, h.runnables]

theorem Kept.snapshot (h : Kept e e') : e'.snapshot = e.snapshot := by
  simp [Environment.snapshot, h.started, h.lifecycle?]

theorem Kept.tidings (h : Kept e e') : e'.tidings = e.tidings := by
  simp [Environment.tidings, h.listeners, h.snapshot]

theorem Struck.lifecycle? (h : Struck i e e') : e'.lifecycle? i = some .stopped := by
  have hrun := h.running
  cases hr : e.runnables[i]? with
  | none => simp [Environment.isRunning, Environment.lifecycle?, hr] at hrun
  | some r =>
    rw [h.rest]
    simp [Environment.lifecycle?, hr, markStopped]

theorem Struck.isRunning (h : Struck i e e') : e'.isRunning i = false :=
  isRunning_of_lifecycle? h.lifecycle?

theorem Handled.refl (i : Nat) (e : Environment σ κ) : Handled i e e := .inl (.refl e)

theorem Handled.trans (h : Handled i e e') (h' : Handled i e' e'') : Handled i e e'' := by
  rcases h with hk | hs
  · rcases h' with hk' | hs'
    · exact .inl (hk.trans hk')
    · refine .inr ⟨hk.isRunning i ▸ hs'.running, ?_, ?_⟩
      · rw [hs'.rest, hk.rest]
        rfl
      · rw [hs'.notices, hk.notices, hk.started]
  · rcases h' with hk' | hs'
    · refine .inr ⟨hs.running, ?_, ?_⟩
      · rw [hk'.rest, hs.rest]
      · rw [hk'.notices, hs.notices, hk'.started, hk'.tidings]
    · have hrun := hs'.running
      rw [hs.isRunning] at hrun
      cases hrun

theorem Handled.lifecycle?_of_running (h : Handled i e e') (hrun : e'.isRunning i = true) :
    e'.lifecycle? i = e.lifecycle? i := by
  rcases h with hk | hs
  · exact hk.lifecycle? i
  · rw [hs.isRunning] at hrun
    cases hrun

theorem Handled.notices_of_isRunning (h : Handled i e e')
    (hrun : e'.isRunning i = e.isRunning i) : e'.notices = e.notices := by
  rcases h with hk | hs
  · exact hk.notices
  · rw [hs.isRunning, hs.running] at hrun
    cases hrun

theorem Handled.notices (h : Handled i e e') :
    e'.notices = e.notices ++ if e'.started = e.started then [] else e'.tidings := by
  rcases h with hk | hs
  · simp [hk.notices, hk.started]
  · exact hs.notices

theorem Handled.listeners (h : Handled i e e') : e'.listeners = e.listeners := by
  rcases h with hk | hs
  · rw [hk.rest]
  · rw [hs.rest]

theorem Handled.closed (h : Handled i e e') : e'.closed = e.closed := by
  rcases h with hk | hs
  · rw [hk.rest]
  · rw [hs.rest]

theorem Handled.nameOf (h : Handled i e e') (j : Nat) : e'.nameOf j = e.nameOf j := by
  rcases h with hk | hs
  · exact hk.nameOf j
  · refine nameOf_congr ?_ j
    have hn := names_update (f := markStopped) (fun _ => rfl) i e
    rw [Environment.names, hs.rest]
    exact hn

theorem kept_world (e : Environment σ κ) (world : World σ) : Kept e { e with world } :=
  ⟨rfl, rfl⟩

theorem kept_record (hx : x.notice? = none) (e : Environment σ κ) : Kept e (e.record x) :=
  ⟨rfl, notices_record hx e⟩

theorem kept_noteCloser (c : Closer) (e : Environment σ κ) : Kept e (e.noteCloser c) :=
  kept_record (x := .ranCloser c.id (e.closerView c)) rfl e

theorem settle_kept (r : Reservation) (e : Environment σ κ) : Kept e ((settle r).after e) := by
  obtain ⟨world, heq⟩ := settle_after r e
  rw [heq]
  exact kept_world e world

theorem struck_of_running (hk : Kept e e') (hr : e.runnables[i]? = some r)
    (hrun : r.lifecycle.isRunning = true) :
    Struck i e ((e'.update i markStopped).unregister r.name) := by
  have hname : e.nameOf i = r.name := by simp [Environment.nameOf, hr]
  have hnames : ∀ j, (e'.update i markStopped).nameOf j = e.nameOf j := fun j =>
    (nameOf_congr (names_update (f := markStopped) (fun _ => rfl) i e') j).trans (hk.nameOf j)
  refine ⟨?_, ?_, ?_⟩
  · rw [isRunning_of_getElem? hr, hrun]
  · rw [unregister_frame, hname]
    simp only [hnames]
    rw [update, hk.rest]
  · rw [notices_unregister]
    have hnotices : (e'.update i markStopped).notices = e.notices := hk.notices
    have hstarted : (e'.update i markStopped).started = e.started := hk.started
    rw [hnotices, hstarted]

section Actions

variable (b : Backend σ κ) (net : Network σ)

theorem halt_of_stopped (how : Halt) (h : e.isRunning i = false) :
    halt b how i e = (.ok (), e) := by
  unfold halt
  cases hr : e.runnables[i]? with
  | none => rfl
  | some r =>
    have hrun : r.lifecycle.isRunning = false := by rw [← isRunning_of_getElem? hr, h]
    simp [hrun]

theorem halt_cases (how : Halt) (i : Nat) (e : Environment σ κ) :
    (∃ e₁, halt b how i e = (.ok (), e₁) ∧ Handled i e e₁) ∨
      ∃ f e₁, halt b how i e = (.error f, e₁) ∧ Kept e e₁ := by
  cases hstop : e.isRunning i with
  | false => exact .inl ⟨e, halt_of_stopped b how hstop, .refl i e⟩
  | true =>
    cases hr : e.runnables[i]? with
    | none => simp [Environment.isRunning, Environment.lifecycle?, hr] at hstop
    | some r =>
      have hrun : r.lifecycle.isRunning = true := by rw [← isRunning_of_getElem? hr, hstop]
      cases hw : r.workload with
      | none =>
        have hs := struck_of_running (.refl e) hr hrun
        exact .inl ⟨_, by simp [halt, hr, hrun, hw], .inr hs⟩
      | some w =>
        rcases hb : b.halt how w e.world with ⟨f | u, world⟩
        · have hk := (kept_world e world).trans (kept_record (x := .halted how i w false) rfl _)
          exact .inr ⟨f, _, by simp [halt, hr, hrun, hw, onWorld, hb], hk⟩
        · have hk := (kept_world e world).trans (kept_record (x := .halted how i w true) rfl _)
          have hs := struck_of_running hk hr hrun
          exact .inl ⟨_, by simp [halt, hr, hrun, hw, onWorld, hb], .inr hs⟩

theorem halt_handled (how : Halt) (i : Nat) (e : Environment σ κ) :
    Handled i e ((halt b how i).after e) := by
  unfold Act.after
  rcases halt_cases b how i e with ⟨e₁, heq, hh⟩ | ⟨f, e₁, heq, hk⟩
  · rwa [heq]
  · rw [heq]
    exact .inl hk

theorem haltAll_handled (i : Nat) (requests : List Halt) (e : Environment σ κ) :
    Handled i e (haltAll b i requests e) := by
  induction requests generalizing e with
  | nil => exact .refl i e
  | cons how requests ih => exact (halt_handled b how i e).trans (ih _)

theorem exec_handled (i : Nat) (c : Command) (sinks : ExecSinks) (e : Environment σ κ) :
    Handled i e (exec b i c sinks e).2 := by
  unfold exec
  cases e.running? i with
  | none => exact .refl i e
  | some p =>
    obtain ⟨r, w⟩ := p
    have hk := (kept_world e (b.exec w c sinks e.world).2).trans
      (kept_record (x := .executed i w c) rfl _)
    exact Handled.trans (.inl hk) (haltAll_handled b i _ _)

theorem check_handled (i : Nat) (p : Probe) (e : Environment σ κ) :
    Handled i e (check b net i p e).2 := by
  cases p with
  | http p =>
    simp only [check, checkHttp]
    cases e.address i p.port with
    | error f => exact .refl i e
    | ok address => exact .inl (kept_world e _)
  | tcp port =>
    simp only [check, checkTcp]
    cases e.address i port with
    | error f => exact .refl i e
    | ok address => exact .inl (kept_world e _)
  | command c =>
    simp only [check, checkCommand]
    split <;> exact exec_handled b i c .none e

theorem update_markReady_of_stopped (h : e.isRunning i = false) : e.update i markReady = e := by
  have hid : e.runnables.modify i markReady = e.runnables := by
    refine List.ext_getElem? fun j => ?_
    rw [List.getElem?_modify]
    split
    · next hij =>
      subst hij
      cases hr : e.runnables[i]? with
      | none => rfl
      | some r =>
        have hl : r.lifecycle ≠ .running := by
          intro hl
          simp [Environment.isRunning, Environment.lifecycle?, hr, hl, Lifecycle.isRunning] at h
        simp [markReady, hl]
    · cases e.runnables[j]? <;> rfl
  rw [update, hid]

theorem lifecycle?_update_markReady (h : e.isRunning i = true) :
    (e.update i markReady).lifecycle? i = some .ready := by
  unfold Environment.isRunning Environment.lifecycle? at h
  rw [Environment.lifecycle?, getElem?_update, if_pos rfl]
  cases hr : e.runnables[i]? with
  | none => simp [hr] at h
  | some r =>
    simp only [hr, Option.map_some, Option.any_some] at h
    cases hl : r.lifecycle with
    | running => simp [markReady, hl]
    | ready => simp [markReady, hl]
    | initialized => simp [hl, Lifecycle.isRunning] at h
    | stopped => simp [hl, Lifecycle.isRunning] at h

theorem isRunning_of_update_markReady (h : (e.update i markReady).isRunning i = true) :
    e.isRunning i = true := by
  cases hrun : e.isRunning i with
  | true => rfl
  | false => rwa [update_markReady_of_stopped hrun, hrun] at h

theorem readyRound_cases (i : Nat) (p : Probe) (last : Failure) (e : Environment σ κ) :
    ∃ e₁, Handled i e e₁ ∧
      (readyRound b net i p last e = (.inl (.ok ()), e₁.update i markReady) ∨
        (∃ f, readyRound b net i p last e = (.inl (.error f), e₁)) ∨
        ∃ f, readyRound b net i p last e = (.inr f, e₁)) := by
  cases hrun : e.isRunning i with
  | false => exact ⟨e, .refl i e, .inr (.inl ⟨.notRunning (e.nameOf i), by simp [readyRound, hrun]⟩)⟩
  | true =>
    have hc := check_handled b net i p e
    rcases hr : check b net i p e with ⟨f | u, e₁⟩
    · rw [hr] at hc
      exact ⟨e₁, hc, .inr (.inr ⟨f, by simp [readyRound, hrun, hr]⟩)⟩
    · rw [hr] at hc
      exact ⟨e₁, hc, .inl (by simp [readyRound, hrun, hr])⟩

theorem handled_of_unsettled {i : Nat} {p : Probe} {first last : Failure} {n : Nat}
    {e e' : Environment σ κ} (h : Unsettled (readyRound b net i p) first e n last e') :
    Handled i e e' := by
  induction h with
  | start => exact .refl i e
  | @next _ last' _ e' _ _ hlast ih =>
    obtain ⟨e₁, hh, hcases⟩ := readyRound_cases b net i p last' e'
    rw [hlast] at hcases
    rcases hcases with heq | ⟨f, heq⟩ | ⟨f, heq⟩ <;> cases heq
    exact ih.trans hh

theorem paced_handled (policy : Policy) (i : Nat) (p : Probe) (e : Environment σ κ) :
    ∃ e₁, Handled i e e₁ ∧
      (paced policy (readyRound b net i p) noAttempt e =
          (.settled (.ok ()), e₁.update i markReady) ∨
        (∃ f, paced policy (readyRound b net i p) noAttempt e = (.settled (.error f), e₁)) ∨
        (∃ f, paced policy (readyRound b net i p) noAttempt e = (.exhausted f, e₁)) ∨
        paced policy (readyRound b net i p) noAttempt e = (.undrawable, e₁)) := by
  obtain ⟨n, last, e', -, hun, hcases⟩ := paced_cases policy (readyRound b net i p) noAttempt e
  have hh := handled_of_unsettled b net hun
  rcases hcases with ⟨-, -, a, e₂, hround, heq⟩ | heq | heq
  · obtain ⟨e₁, hh', hlast⟩ := readyRound_cases b net i p last e'
    rw [hround] at hlast
    refine ⟨e₁, hh.trans hh', ?_⟩
    rcases hlast with h | ⟨f, h⟩ | ⟨f, h⟩ <;> cases h
    · exact .inl heq
    · exact .inr (.inl ⟨f, heq⟩)
  · exact ⟨e', hh, .inr (.inr (.inl ⟨last, heq⟩))⟩
  · exact ⟨e', hh, .inr (.inr (.inr heq))⟩

/-- A wait for readiness leaves what its probes leave; where it succeeds, the runnable is marked
ready at its end. -/
theorem waitReady_handled (i : Nat) (e : Environment σ κ) :
    ∃ e₁, Handled i e e₁ ∧
      ((waitReady b net i e = (.ok (), e₁.update i markReady) ∧ e.isRunning i = true) ∨
        ∃ f, waitReady b net i e = (.error f, e₁)) := by
  unfold waitReady
  cases hr : e.runnables[i]? with
  | none => exact ⟨e, .refl i e, .inr ⟨_, rfl⟩⟩
  | some r =>
    have hrunning := isRunning_of_getElem? hr
    dsimp only
    cases hrun : r.lifecycle.isRunning with
    | false => exact ⟨e, .refl i e, .inr ⟨_, rfl⟩⟩
    | true =>
      rw [hrun] at hrunning
      cases r.options.readiness with
      | none => exact ⟨e, .refl i e, .inl ⟨rfl, hrunning⟩⟩
      | some p =>
        obtain ⟨e₁, hh, hcases⟩ := paced_handled b net r.policy i p e
        refine ⟨e₁, hh, ?_⟩
        rcases hcases with heq | ⟨f, heq⟩ | ⟨f, heq⟩ | heq
        · exact .inl ⟨by simp [heq], hrunning⟩
        · exact .inr ⟨f, by simp [heq]⟩
        · exact .inr ⟨.notReady r.name r.policy.attempts f, by simp [heq]⟩
        · exact .inr ⟨.panicked Wait.emptyWindow, by simp [heq]⟩

end Actions

end Environment

end Testbed
