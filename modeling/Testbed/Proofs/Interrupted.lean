import Testbed.Proofs.Listening
import Testbed.Proofs.Teardown

/-!
Starts in the course of which the environment is closed. The close goes its whole way while the
backend launches the workload, which is killed as soon as its runnable has it.
-/
namespace Testbed.Environment

open History

variable {σ κ : Type} {e e' c k m : Environment σ κ} {h : List (Happening κ)} {i : Nat}
  {r : Runnable κ} {l : Launching κ} {w : Workload κ}

section Steps

variable (b : Backend σ κ)

theorem lifecycle?_halt (hh : e.Held) (how : Halt) (hw : e.workloads i = some w) :
    ((halt b how i).after e).lifecycle? i =
      if (b.halt how w e.world).1.isOk then some .stopped else e.lifecycle? i := by
  obtain ⟨r, hr, hrw⟩ := Option.bind_eq_some_iff.mp hw
  have hrun : r.lifecycle.isRunning = true := by
    rw [← hh r (List.mem_of_getElem? hr), hrw]
    rfl
  unfold Act.after
  rcases hb : b.halt how w e.world with ⟨f | u, world⟩
  · rw [halt_failed b hh how hw hb]
    rfl
  · rw [halt_done b hh how hr hrw hb]
    have hk := (kept_world e world).trans (kept_record (x := .halted how i w true) rfl _)
    exact (struck_of_running hk hr hrun).lifecycle?

theorem lifecycle?_markRunning (hlt : i < e.runnables.length) (w : Workload κ) :
    (e.update i (markRunning w)).lifecycle? i = some .running := by
  simp [Environment.lifecycle?, getElem?_update, List.getElem?_eq_getElem hlt, markRunning]

theorem holders_eq_filter (hk : k.Held)
    (hw : ∀ j, k.workloads j = e.workloads j ∨ k.workloads j = none) (l : List Nat) :
    k.holders l = (e.holders l).filter fun p => k.isRunning p.1 := by
  simp only [hk.isRunning]
  induction l with
  | nil => rfl
  | cons j l ih =>
    unfold holders at ih ⊢
    cases hej : e.workloads j with
    | none =>
      have hj : k.workloads j = none := (hw j).elim (·.trans hej) id
      simpa [hj, hej] using ih
    | some w => rcases hw j with hj | hj <;> simpa [hj, hej] using ih

variable (net : Network σ)

theorem run_shut_running (hh : e.Held) (hs : e.Shut) (rs : List Request) (i : Nat) :
    let later := run b net rs e
    (later.isRunning i = true ↔ e.isRunning i = true ∧
      ∀ x ∈ later.history.drop e.history.length, x.halts i = false) ∧
    (later.isRunning i = true → ∃ w, e.workloads i = some w ∧ ∀ how,
      let struck := (b.halt how w later.world).1.isOk
      let after := (halt b how i).after later
      after.history = later.history ++ [.halted how i w struck] ∧
        after.lifecycle? i = if struck then some .stopped else later.lifecycle? i) := by
  obtain ⟨h, hw⟩ := run_winds b net hh hs rs
  constructor
  · rw [hw.held.isRunning, hh.isRunning, hw.history, List.drop_left, Option.isSome_iff_ne_none,
      Option.isSome_iff_ne_none, hw.workloads, ne_eq, ne_eq, live_eq_none_iff hw.launchless]
    simp
  · intro hrun
    rw [hw.held.isRunning] at hrun
    obtain ⟨w, hlive⟩ := Option.isSome_iff_exists.mp hrun
    refine ⟨w, ?_, fun how => ?_⟩
    · rcases hw.workloads_eq_or_none i with heq | hnone
      · rw [← heq, hlive]
      · rw [hnone] at hlive
        cases hlive
    · obtain ⟨hk, -⟩ := halt_shut b hw.held hw.shut how hlive
      exact ⟨hk.history, lifecycle?_halt b hw.held how hlive⟩

end Steps

section Interruptions

variable (b : Backend σ κ) (net : Network σ)

/-- The backend launches a workload for a runnable that does not run, and what was an open
environment is closed when the launch returns. -/
structure Interrupted (i : Nat) (r : Runnable κ) (w : Workload κ) (e c : Environment σ κ) :
    Prop where
  before : e.closed = false
  runnable : e.runnables[i]? = some r
  still : r.lifecycle.isRunning = false
  launch : launch b net i r e = (.ok w, c)
  after : c.closed = true

variable {b net}

theorem Interrupted.idle (ht : Interrupted b net i r w e c) (hh : e.Held) :
    e.workloads i = none := by
  have hheld := hh r (List.mem_of_getElem? ht.runnable)
  rw [workloads_of_getElem? ht.runnable]
  simpa [ht.still] using hheld

theorem Interrupted.close (ht : Interrupted b net i r w e c)
    (hm : launching b i r e = (l, m)) : l.result = .ok w ∧ m.closed = false ∧
      c = close b net m := by
  have hmo : m.closed = false := (launching_frame b hm).2.1.trans ht.before
  have hl := ht.launch
  simp only [Environment.launch, hm, Prod.mk.injEq] at hl
  obtain ⟨hw, hc⟩ := hl
  cases hcl : l.closing with
  | true => exact ⟨hw, hmo, by simpa [hcl] using hc.symm⟩
  | false =>
    have hcm : m = c := by simpa [hcl] using hc
    rw [hcm, ht.after] at hmo
    cases hmo

theorem Interrupted.start (ht : Interrupted b net i r w e c) :
    start b net i e = (.error (.environmentClosed c.name),
      (halt b .kill i).after (c.update i (markRunning w))) := by
  simp only [Environment.start, ht.before, ht.runnable, ht.still, ht.launch, update, ht.after]
  rfl

theorem Interrupted.trace (ht : Interrupted b net i r w e c) (hf : e.Faithful) :
    let k := (launching b i r e).2.runClosers b net
    (∃ g, k.history = e.history ++ .launched i (some w) :: g ∧ Launchless g) ∧
    c.history = k.history ++
      (killEach b (e.standing.filter fun p => k.isRunning p.1) k.world).1 ++
        [.scopeDestroyed, .released !e.config.keepDir] ∧
    ∃ h, c.history = e.history ++ .launched i (some w) :: h ∧ ∀ x ∈ h, x.runnable? ≠ some i := by
  rcases hm : launching b i r e with ⟨l, m⟩
  obtain ⟨hw, hmo, rfl⟩ := ht.close hm
  obtain ⟨hheld, -, hms, hmw, hmh⟩ := launching_frame b hm
  have hheld := hheld hf.held
  have hmn : m.started.Nodup := hms ▸ hf.nodup_started ht.before
  have hmc : m.config = e.config := by rw [launching_eq b hm]; rfl
  rw [hw] at hmh
  obtain ⟨g, hg⟩ := runClosers_winds b net hheld
  obtain ⟨h, hwd⟩ := close_winds b net hheld hmo
  obtain ⟨hclose, -, -⟩ := close_after_closers b net hheld hmo hmn
  have hleft : ∀ j, (m.runClosers b net).workloads j = e.workloads j ∨
      (m.runClosers b net).workloads j = none := by
    rw [← hmw]
    exact hg.workloads_eq_or_none
  have hmi : m.workloads i = none := by rw [hmw, ht.idle hf.held]
  refine ⟨⟨g, ?_, hg.launchless⟩, ?_, h, ?_, ?_⟩
  · rw [hg.history, hmh]
    simp [Except.toOption]
  · rw [hclose, hms, hmc, holders_eq_filter hg.held hleft]
    rfl
  · rw [hwd.history, hmh]
    simp [Except.toOption]
  · exact unasked_of_idle hwd.orderly hwd.launchless hmi

theorem Interrupted.taken (ht : Interrupted b net i r w e c) (hf : e.Faithful) :
    let t := c.update i (markRunning w)
    t.Held ∧ t.Shut ∧ t.name = e.name ∧ t.lifecycle? i = some .running ∧
      t.workloads i = some w ∧ Silent e.notices t := by
  rcases hm : launching b i r e with ⟨l, m⟩
  obtain ⟨hw, hmo, rfl⟩ := ht.close hm
  have hheld := (launching_frame b hm).1 hf.held
  obtain ⟨h, hwd⟩ := close_winds b net hheld hmo
  have hv := taken_evolves b ht.runnable (ht.idle hf.held) hm hw hwd.launchless hwd.toEvolves
  have hsilent := close_silent b net hmo
  have hlt : i < (Environment.close b net m).runnables.length := by
    have hle := hv.length_le
    rw [update, List.length_modify] at hle
    exact Nat.lt_of_lt_of_le (List.getElem?_eq_some_iff.mp ht.runnable).1 hle
  refine ⟨hv.held, ⟨hwd.shut.closed, hwd.shut.started, hwd.shut.closers⟩,
    congrArg Scope.name hv.scope, lifecycle?_markRunning hlt w, ?_, ?_⟩
  · rw [workloads_update, List.getElem?_eq_getElem hlt]
    exact Function.update_self _ _ _
  · rw [(launching_kept hm).notices] at hsilent
    exact ⟨hsilent.closed, hsilent.started, hsilent.notices⟩

theorem Interrupted.killed (ht : Interrupted b net i r w e c) (hf : e.Faithful) {killed : Bool}
    (hb : (b.halt .kill w c.world).1.isOk = killed) :
    let e' := (Environment.start b net i).after e
    e'.Held ∧ e'.Shut ∧ Silent e.notices e' ∧
      e'.history = c.history ++ [.halted .kill i w killed] ∧
      e'.lifecycle? i = some (if killed then .stopped else .running) ∧
      e'.workloads i = if killed then none else some w := by
  rw [Act.after, ht.start]
  obtain ⟨hheld, hshut, -, hlife, hwork, hsilent⟩ := ht.taken hf
  have hworld : (c.update i (markRunning w)).world = c.world := rfl
  obtain ⟨hk, -⟩ := halt_shut b hheld hshut .kill hwork
  have hnow := lifecycle?_halt b hheld .kill hwork
  have hlive := congrFun hk.workloads i
  rw [hworld, hb] at hk hnow hlive
  refine ⟨hk.held, hk.shut, (lasting_silent _).handled (halt_handled b .kill i _) hsilent,
    hk.history, ?_, ?_⟩
  · rw [hlife] at hnow
    refine hnow.trans ?_
    cases killed <;> rfl
  · refine hlive.trans ?_
    cases killed with
    | true => exact Function.update_self _ _ _
    | false => exact hwork

/-- A start in the course of whose launch the environment is closed. Inside the launch the
closers run, then those that were started and still run are killed, the last one first, then the
scope is destroyed, all of which asks nothing of the runnable that is being launched. After the
launch its workload is killed, once. The runnable is never listed, and nobody is told of it. It
has stopped if the kill succeeded; otherwise it runs on, with its workload, until a later halt
succeeds, which asks for the end of that workload. -/
theorem start_interrupted (hr : e.Reachable b net) (ht : Interrupted b net i r w e c) :
    let k := (launching b i r e).2.runClosers b net
    let killed := (b.halt .kill w c.world).1.isOk
    let e' := (start b net i).after e
    (start b net i e).1 = .error (.environmentClosed e.name) ∧
    (∃ g, k.history = e.history ++ .launched i (some w) :: g ∧ Launchless g) ∧
    e.standing.map (·.1) = e.started.reverse ∧
    (∀ p ∈ e.standing, e.workloads p.1 = some p.2) ∧
    c.history = k.history ++
      (killEach b (e.standing.filter fun p => k.isRunning p.1) k.world).1 ++
        [.scopeDestroyed, .released !e.config.keepDir] ∧
    (∃ h, c.history = e.history ++ .launched i (some w) :: h ∧
      ∀ x ∈ h, x.runnable? ≠ some i) ∧
    e'.history = c.history ++ [.halted .kill i w killed] ∧
    e'.lifecycle? i = some (if killed then .stopped else .running) ∧
    e'.workloads i = (if killed then none else some w) ∧
    i ∉ e.started ∧
    ∀ rs, let later := run b net rs e'
      later.started = [] ∧ later.notices = e.notices ∧
      (later.isRunning i = true ↔ killed = false ∧
        ∀ x ∈ later.history.drop e'.history.length, x.halts i = false) ∧
      (later.isRunning i = true → ∀ how,
        let struck := (b.halt how w later.world).1.isOk
        let after := (halt b how i).after later
        after.history = later.history ++ [.halted how i w struck] ∧
          after.lifecycle? i = if struck then some .stopped else later.lifecycle? i) := by
  intro k killed e'
  have hf := hr.faithful
  obtain ⟨hclosers, hclose, hunasked⟩ := ht.trace hf
  obtain ⟨hheld, hshut, hsilent, hhist, hlife, hwork⟩ := ht.killed hf (rfl : _ = killed)
  obtain ⟨-, -, hname, -⟩ := ht.taken hf
  clear_value killed
  have hunlisted : i ∉ e.started := by
    intro hi
    rw [hf.started ht.before] at hi
    have hsome := isSome_of_mem_listed (s := idle) hi
    rw [← hf.workloads, ht.idle hf.held] at hsome
    cases hsome
  have hnow : e'.isRunning i = true ↔ killed = false := by
    rw [isRunning_of_lifecycle? hlife]
    cases killed <;> simp [Lifecycle.isRunning]
  refine ⟨?_, hclosers, hf.standing_eq ht.before, fun p hp => workloads_of_standing hp, hclose,
    hunasked, hhist, hlife, hwork, hunlisted, fun rs => ?_⟩
  · rw [ht.start]
    exact congrArg (fun n => Except.error (Failure.environmentClosed n)) hname
  obtain ⟨_, hlater⟩ := run_winds b net hheld hshut rs
  obtain ⟨hrunning, hretry⟩ := run_shut_running b net hheld hshut rs i
  refine ⟨hlater.shut.started, (run_silent b net hsilent rs).notices, ?_, fun hrun => ?_⟩
  · rw [← hnow]
    exact hrunning
  · obtain ⟨w', hw', hhalts⟩ := hretry hrun
    rw [hwork, hnow.mp (hrunning.mp hrun).1] at hw'
    cases hw'
    exact hhalts

theorem start_interrupted_unkilled : ∃ (e c : Environment StandIn.State String)
    (r : Runnable String) (w : Workload String),
    e.Reachable StandIn.backend StandIn.network ∧
    Interrupted StandIn.backend StandIn.network 1 r w e c ∧ e.started = [0] ∧
    let e' := (start StandIn.backend StandIn.network 1).after e
    e'.started = [] ∧ e'.notices = e.notices ∧ e'.isRunning 1 = true ∧
      ((halt StandIn.backend .stop 1).after e').history =
        e'.history ++ [.halted .stop 1 w (StandIn.backend.halt .stop w e'.world).1.isOk] := by
  obtain ⟨e, hr, hp⟩ := exists_reachable StandIn.backend StandIn.network (.ofName "bed") "/tmp"
    "Ab3dE9" ⟨.empty, .empty, { StandIn.State.empty with
      staging := { StandIn.Staging.empty with
        closesInLaunch := ["b"], haltFails := ["b"] } }⟩ attending
    (fun e => e.closed = false ∧ e.started = [0] ∧
      ((start StandIn.backend StandIn.network 1).after e).isRunning 1 = true ∧
      e.runnables[1]?.any fun r => !r.lifecycle.isRunning &&
        (launch StandIn.backend StandIn.network 1 r e).1.isOk &&
        (launch StandIn.backend StandIn.network 1 r e).2.closed) (by decide +kernel)
  obtain ⟨ho, hs, hrun, hlaunch⟩ := of_decide_eq_true hp
  obtain ⟨r, hi, hlaunch⟩ := (Option.any_eq_true _ _).mp hlaunch
  rcases hl : launch StandIn.backend StandIn.network 1 r e with ⟨f | w, c⟩
  · simp [hl, Except.isOk, Except.toBool] at hlaunch
  · obtain ⟨hstill, hc⟩ : r.lifecycle.isRunning = false ∧ c.closed = true := by
      simpa [hl, Except.isOk, Except.toBool] using hlaunch
    have ht : Interrupted StandIn.backend StandIn.network 1 r w e c := ⟨ho, hi, hstill, hl, hc⟩
    obtain ⟨-, -, -, -, -, -, -, -, -, -, hlater⟩ := start_interrupted hr ht
    obtain ⟨hempty, huntold, -, hretry⟩ := hlater []
    exact ⟨e, c, r, w, hr, ht, hs, hempty, huntold, hrun, (hretry hrun .stop).1⟩

end Interruptions

end Testbed.Environment
