import Testbed.Environment.Start
import Testbed.Proofs.History
import Testbed.Proofs.Pacing

/-!
What requests do to an environment, told by the happenings that they add to its history. The
workloads that the runnables hold are those which the history says are live.
-/
namespace Testbed.Environment

open History

variable {σ κ : Type} {e e' e'' : Environment σ κ} {g h : List (Happening κ)}
  {x : Happening κ} {i : Nat} {r : Runnable κ} {w : Workload κ}

def workloads (e : Environment σ κ) : Live κ := fun i => e.runnables[i]?.bind (·.workload)

def names (e : Environment σ κ) : List String := e.runnables.map (·.name)

def Held (e : Environment σ κ) : Prop :=
  ∀ r ∈ e.runnables, r.workload.isSome = r.lifecycle.isRunning

theorem workloads_of_getElem? (hr : e.runnables[i]? = some r) : e.workloads i = r.workload := by
  simp [workloads, hr]

theorem lt_of_workloads (hw : e.workloads i = some w) : i < e.runnables.length := by
  obtain ⟨r, hr, -⟩ := Option.bind_eq_some_iff.mp hw
  exact (List.getElem?_eq_some_iff.mp hr).1

theorem Held.isRunning (hh : e.Held) (i : Nat) : e.isRunning i = (e.workloads i).isSome := by
  cases hr : e.runnables[i]? with
  | none => simp [Environment.isRunning, lifecycle?, workloads, hr]
  | some r =>
    have hrun := hh r (List.mem_of_getElem? hr)
    simp [Environment.isRunning, lifecycle?, workloads, hr, hrun]

theorem nameOf_eq (e : Environment σ κ) (i : Nat) : e.nameOf i = (e.names[i]?).getD "" := by
  simp [nameOf, names]

theorem nameOf_congr (hn : e'.names = e.names) (i : Nat) : e'.nameOf i = e.nameOf i := by
  rw [nameOf_eq, nameOf_eq, hn]

theorem getElem?_update (i j : Nat) (f : Runnable κ → Runnable κ) (e : Environment σ κ) :
    (e.update i f).runnables[j]? =
      if i = j then e.runnables[j]?.map f else e.runnables[j]? := by
  by_cases hij : i = j
  · subst hij
    simp [update]
  · simp [update, hij]

theorem names_update {f : Runnable κ → Runnable κ} (hn : ∀ r, (f r).name = r.name) (i : Nat)
    (e : Environment σ κ) : (e.update i f).names = e.names := by
  refine List.ext_getElem? fun j => ?_
  rw [names, names, List.getElem?_map, List.getElem?_map, getElem?_update]
  split
  · cases e.runnables[j]? with
    | none => rfl
    | some r => exact congrArg some (hn r)
  · rfl

theorem workloads_update (i : Nat) (f : Runnable κ → Runnable κ) (e : Environment σ κ) :
    (e.update i f).workloads =
      Function.update e.workloads i (e.runnables[i]?.bind fun r => (f r).workload) := by
  funext j
  rw [workloads, getElem?_update]
  by_cases hij : i = j
  · subst hij
    cases e.runnables[i]? <;> simp
  · simp [hij, Ne.symm hij, workloads]

theorem forall_update {p : Runnable κ → Prop} {f : Runnable κ → Runnable κ}
    (h : ∀ r ∈ e.runnables, p r) (hf : ∀ r, e.runnables[i]? = some r → p r → p (f r)) :
    ∀ r ∈ (e.update i f).runnables, p r := by
  intro r hr
  obtain ⟨j, hj⟩ := List.mem_iff_getElem?.mp hr
  rw [getElem?_update] at hj
  split at hj
  · next hij =>
    subst hij
    obtain ⟨r', hr', rfl⟩ := Option.map_eq_some_iff.mp hj
    exact hf r' hr' (h r' (List.mem_of_getElem? hr'))
  · exact h r (List.mem_of_getElem? hj)

theorem held_update {f : Runnable κ → Runnable κ} (hh : e.Held)
    (hf : ∀ r, e.runnables[i]? = some r → (f r).workload.isSome = (f r).lifecycle.isRunning) :
    (e.update i f).Held :=
  forall_update hh fun r hr _ => hf r hr

/-- An environment gets from one state to another by happenings that are all in place. -/
structure Evolves (e e' : Environment σ κ) (h : List (Happening κ)) : Prop where
  held : e'.Held
  history : e'.history = e.history ++ h
  orderly : Orderly e.workloads h
  workloads : e'.workloads = live e.workloads h
  within : Within e'.runnables.length h
  names : e.names <+: e'.names
  scope : e'.scope = e.scope
  config : e'.config = e.config

/-- In doing so it launches nothing, and it keeps all but its workloads and its list of started
runnables. -/
structure Calm (e e' : Environment σ κ) (h : List (Happening κ)) : Prop
    extends Evolves e e' h where
  names_eq : e'.names = e.names
  closed : e'.closed = e.closed
  closers : e'.closers = e.closers
  launchless : Launchless h
  started : e'.started = listed e.nameOf e.started h

theorem Evolves.length_le (he : Evolves e e' h) : e.runnables.length ≤ e'.runnables.length := by
  simpa [Environment.names] using he.names.length_le

theorem Evolves.refl (hh : e.Held) : Evolves e e [] where
  held := hh
  history := by simp
  orderly := trivial
  workloads := rfl
  within := by simp [Within]
  names := List.prefix_rfl
  scope := rfl
  config := rfl

theorem Evolves.trans (he : Evolves e e' g) (he' : Evolves e' e'' h) :
    Evolves e e'' (g ++ h) where
  held := he'.held
  history := by rw [he'.history, he.history, List.append_assoc]
  orderly := by
    rw [orderly_append, ← he.workloads]
    exact ⟨he.orderly, he'.orderly⟩
  workloads := by rw [he'.workloads, he.workloads, live_append]
  within := within_append.mpr ⟨he.within.mono he'.length_le, he'.within⟩
  names := he.names.trans he'.names
  scope := he'.scope.trans he.scope
  config := he'.config.trans he.config

theorem Calm.refl (hh : e.Held) : Calm e e [] where
  toEvolves := .refl hh
  names_eq := rfl
  closed := rfl
  closers := rfl
  launchless := by simp [Launchless]
  started := rfl

theorem Calm.trans (hc : Calm e e' g) (hc' : Calm e' e'' h) : Calm e e'' (g ++ h) where
  toEvolves := hc.toEvolves.trans hc'.toEvolves
  names_eq := hc'.names_eq.trans hc.names_eq
  closed := hc'.closed.trans hc.closed
  closers := hc'.closers.trans hc.closers
  launchless := launchless_append.mpr ⟨hc.launchless, hc'.launchless⟩
  started := by
    rw [hc'.started, hc.started, funext (nameOf_congr hc.names_eq), listed_append]

theorem calm_aside (hh : e.Held) (world : World σ) (reserved listeners : List String) :
    Calm e { e with world, reserved, listeners } [] where
  toEvolves := { Evolves.refl hh with held := hh, history := by simp }
  names_eq := rfl
  closed := rfl
  closers := rfl
  launchless := by simp [Launchless]
  started := rfl

theorem calm_world (hh : e.Held) (world : World σ) : Calm e { e with world } [] :=
  calm_aside hh world e.reserved e.listeners

theorem record_evolves (hh : e.Held) (hx : x.InPlace e.workloads) (hl : x.launchOf? = none)
    (hs : ∀ i, x.halts i = false) (hw : Within e.runnables.length [x]) :
    Evolves e (e.record x) [x] where
  held := hh
  history := rfl
  orderly := ⟨hx, trivial⟩
  workloads := ((Happening.idle_of hl hs).1 _).symm
  within := hw
  names := List.prefix_rfl
  scope := rfl
  config := rfl

theorem calm_record (hh : e.Held) (hx : x.InPlace e.workloads) (hl : x.isLaunch = false)
    (hs : ∀ i, x.halts i = false) (hw : Within e.runnables.length [x]) :
    Calm e (e.record x) [x] where
  toEvolves := record_evolves hh hx (Happening.launchOf?_of_isLaunch hl) hs hw
  names_eq := rfl
  closed := rfl
  closers := rfl
  launchless := by simp [Launchless, hl]
  started := ((Happening.idle_of (Happening.launchOf?_of_isLaunch hl) hs).2 _ _).symm

theorem calm_notes (hh : e.Held) (hn : ∀ x ∈ h, x.runnable? = none) :
    Calm e { e with history := e.history ++ h } h := by
  induction h generalizing e with
  | nil => simpa using Calm.refl hh
  | cons x h ih =>
    have hx : x.runnable? = none := hn x List.mem_cons_self
    have hc := calm_record hh (Happening.inPlace_of_runnable?_none hx)
      (Happening.isLaunch_of_runnable?_none hx) (Happening.halts_of_runnable?_none hx)
      (by simp [Within, hx])
    have hc' := ih hc.held fun y hy => hn y (List.mem_cons_of_mem x hy)
    simpa [record] using hc.trans hc'

theorem noteCloser_calm (hh : e.Held) (c : Closer) :
    Calm e (e.noteCloser c) [.ranCloser c.id (e.closerView c)] :=
  calm_notes hh (by simp [Happening.runnable?])

theorem addListener_calm (hh : e.Held) (id : String) : Calm e (e.addListener id) [] :=
  calm_aside hh e.world e.reserved (e.listeners ++ [id])

theorem reserve_cases (name : String) (e : Environment σ κ) :
    (isLabel name = false ∧
      reserve name e = (.error (.config (.badName "runnable" name)), e)) ∨
    (isLabel name = true ∧ e.closed = true ∧
      reserve name e = (.error (.environmentClosed e.name), e)) ∨
    (isLabel name = true ∧ e.closed = false ∧ name ∈ e.reserved ∧
      reserve name e = (.error (.nameConflict name e.name), e)) ∨
    (isLabel name = true ∧ e.closed = false ∧ name ∉ e.reserved ∧
      reserve name e = (.ok ⟨name, .empty⟩, { e with reserved := name :: e.reserved })) := by
  cases hn : isLabel name with
  | false => exact .inl ⟨rfl, by simp [reserve, checkName, hn]⟩
  | true =>
    cases hc : e.closed with
    | true => exact .inr (.inl ⟨rfl, rfl, by simp [reserve, checkName, hn, hc]⟩)
    | false =>
      by_cases hm : name ∈ e.reserved
      · exact .inr (.inr (.inl ⟨rfl, rfl, hm, by simp [reserve, checkName, hn, hc, hm]⟩))
      · exact .inr (.inr (.inr ⟨rfl, rfl, hm, by simp [reserve, checkName, hn, hc, hm]⟩))

def Admits (e : Environment σ κ) (reserved : List String) : Prop :=
  reserved = e.reserved ∨
    ∃ name, isLabel name = true ∧ e.closed = false ∧ name ∉ e.reserved ∧
      reserved = name :: e.reserved

theorem reserve_after (name : String) (e : Environment σ κ) :
    ∃ reserved, e.Admits reserved ∧ (reserve name).after e = { e with reserved } := by
  unfold Act.after
  rcases reserve_cases name e with ⟨-, heq⟩ | ⟨-, -, heq⟩ | ⟨-, -, -, heq⟩ | ⟨hn, ho, hm, heq⟩
  · exact ⟨e.reserved, .inl rfl, by rw [heq]⟩
  · exact ⟨e.reserved, .inl rfl, by rw [heq]⟩
  · exact ⟨e.reserved, .inl rfl, by rw [heq]⟩
  · exact ⟨name :: e.reserved, .inr ⟨name, hn, ho, hm, rfl⟩, by rw [heq]⟩

theorem reserve_calm (hh : e.Held) (name : String) :
    Calm e ((reserve name).after e) [] := by
  obtain ⟨reserved, -, heq⟩ := reserve_after name e
  rw [heq]
  exact calm_aside hh e.world reserved e.listeners

theorem settle_cases (r : Reservation) (e : Environment σ κ) :
    (∃ files, e.world.files.makeDirectories (e.scope.workDir r.name) = .ok files ∧
      settle r e = (.ok ⟨r.name, r.ports⟩, { e with world := { e.world with files } })) ∨
    ∃ f, settle r e = (.error f, e) := by
  unfold settle
  cases hp : checkPorts r.name r.ports.entries with
  | error f => exact .inr ⟨f, by simp [bind, Act.ofExcept]⟩
  | ok u =>
    rcases World.onFiles_cases (e.scope.workDir r.name) (·.makeDirectories (e.scope.workDir r.name))
      e.world with ⟨files, hmade, heq⟩ | ⟨cause, heq⟩
    · refine .inl ⟨files, hmade, ?_⟩
      simp [bind, Act.ofExcept, Act.asks, onWorld, World.makeDirectories, heq]
    · refine .inr ⟨.io (e.scope.workDir r.name) cause, ?_⟩
      simp [bind, Act.ofExcept, Act.asks, onWorld, World.makeDirectories, heq]

theorem settle_after (r : Reservation) (e : Environment σ κ) :
    ∃ world, (settle r).after e = { e with world } := by
  unfold Act.after
  rcases settle_cases r e with ⟨files, -, heq⟩ | ⟨f, heq⟩
  · exact ⟨{ e.world with files }, by rw [heq]⟩
  · exact ⟨e.world, by rw [heq]⟩

theorem settle_calm (hh : e.Held) (r : Reservation) : Calm e ((settle r).after e) [] := by
  obtain ⟨world, heq⟩ := settle_after r e
  rw [heq]
  exact calm_world hh world

theorem markReady_frame (r : Runnable κ) :
    (markReady r).name = r.name ∧ (markReady r).workload = r.workload ∧
      (markReady r).lifecycle.isRunning = r.lifecycle.isRunning := by
  unfold markReady
  split
  · next h => simp [h, Lifecycle.isRunning]
  · exact ⟨rfl, rfl, rfl⟩

theorem calm_ready (hh : e.Held) (i : Nat) : Calm e (e.update i markReady) [] := by
  have hn := names_update (fun r => (markReady_frame r).1) i e
  exact {
    held := held_update hh fun r hr => by
      rw [(markReady_frame r).2.1, (markReady_frame r).2.2]
      exact hh r (List.mem_of_getElem? hr)
    history := by simp [update]
    orderly := trivial
    workloads := by
      rw [workloads_update, live_nil, Function.update_eq_self_iff]
      exact Option.bind_congr fun r _ => (markReady_frame r).2.1
    within := by simp [Within]
    names := hn ▸ List.prefix_rfl
    scope := rfl
    config := rfl
    names_eq := hn
    closed := rfl
    closers := rfl
    launchless := by simp [Launchless]
    started := rfl }

theorem initialise_after (f : Future) (o : Options) (e : Environment σ κ) :
    ∃ rs, (initialise f o).after e = { e with runnables := e.runnables ++ rs } ∧
      ∀ r ∈ rs, r.workload = none ∧ r.lifecycle = .initialized := by
  unfold Act.after initialise
  dsimp only
  split
  · exact ⟨[], by simp, by simp⟩
  · exact ⟨_, rfl, by simp⟩

theorem initialise_evolves (hh : e.Held) (f : Future) (o : Options) :
    Evolves e ((initialise f o).after e) [] := by
  obtain ⟨rs, heq, hrs⟩ := initialise_after f o e
  rw [heq]
  exact {
    held := by
      intro r hr
      rcases List.mem_append.mp hr with hr | hr
      · exact hh r hr
      · simp [hrs r hr, Lifecycle.isRunning]
    history := by simp
    orderly := trivial
    workloads := by
      funext i
      rw [live_nil, workloads, workloads]
      by_cases hi : i < e.runnables.length
      · rw [List.getElem?_append_left hi]
      · have hle : e.runnables.length ≤ i := Nat.le_of_not_lt hi
        rw [List.getElem?_append_right hle, List.getElem?_eq_none hle]
        cases hr : rs[i - e.runnables.length]? with
        | none => rfl
        | some r => exact (hrs r (List.mem_of_getElem? hr)).1
    within := by simp [Within]
    names := by simp [Environment.names]
    scope := rfl
    config := rfl }

theorem unregister_eq (name : String) (e : Environment σ κ) :
    ∃ notes : List (Happening κ), (∀ x ∈ notes, x.runnable? = none) ∧
      e.unregister name = { e with
        started := e.started.filter fun i => e.nameOf i ≠ name
        history := e.history ++ notes } := by
  unfold unregister
  dsimp only
  split
  · next hlen =>
    refine ⟨[], by simp, ?_⟩
    have hs := List.filter_sublist.eq_of_length hlen
    rw [hs, List.append_nil]
  · exact ⟨_, by simp [Happening.runnable?], rfl⟩

def struckOff (how : Halt) (i : Nat) (w : Workload κ) (e : Environment σ κ) :
    Environment σ κ :=
  { (e.record (.halted how i w true)).update i markStopped with
    started := e.started.filter fun j => e.nameOf j ≠ e.nameOf i }

theorem names_struckOff (how : Halt) (i : Nat) (w : Workload κ) (e : Environment σ κ) :
    (e.struckOff how i w).names = e.names :=
  names_update (f := markStopped) (fun _ => rfl) i (e.record (.halted how i w true))

theorem calm_struckOff (hh : e.Held) (how : Halt) (hw : e.workloads i = some w) :
    Calm e (e.struckOff how i w) [.halted how i w true] where
  held := held_update (e := e.record (.halted how i w true)) hh fun _ _ => rfl
  history := rfl
  orderly := ⟨hw, trivial⟩
  workloads := by
    have hu := workloads_update i markStopped (e.record (.halted how i w true))
    have hnone : (e.runnables[i]?.bind fun r => (markStopped r).workload) = none := by
      cases e.runnables[i]? <;> rfl
    exact hu.trans (congrArg (Function.update e.workloads i) hnone)
  within := by
    have hlt := lt_of_workloads hw
    simpa [Within, Happening.runnable?, struckOff, update, record] using hlt
  names := names_struckOff how i w e ▸ List.prefix_rfl
  scope := rfl
  config := rfl
  names_eq := names_struckOff how i w e
  closed := rfl
  closers := rfl
  launchless := by simp [Launchless, Happening.isLaunch]
  started := rfl

theorem unregister_struckOff (how : Halt) (hr : e.runnables[i]? = some r) (w : Workload κ) :
    ∃ notes : List (Happening κ), (∀ x ∈ notes, x.runnable? = none) ∧
      ((e.record (.halted how i w true)).update i markStopped).unregister r.name =
        { e.struckOff how i w with history := (e.struckOff how i w).history ++ notes } := by
  obtain ⟨notes, hnotes, heq⟩ :=
    unregister_eq r.name ((e.record (.halted how i w true)).update i markStopped)
  have hn : ((e.record (.halted how i w true)).update i markStopped).names = e.names :=
    names_struckOff how i w e
  have hname : e.nameOf i = r.name := by simp [nameOf, hr]
  simp only [nameOf_congr hn, ← hname] at heq
  exact ⟨notes, hnotes, hname ▸ heq⟩

variable (b : Backend σ κ)

theorem halt_idle (hh : e.Held) (how : Halt) (hw : e.workloads i = none) :
    halt b how i e = (.ok (), e) := by
  unfold halt
  cases hr : e.runnables[i]? with
  | none => rfl
  | some r =>
    have hrun := hh r (List.mem_of_getElem? hr)
    rw [workloads_of_getElem? hr] at hw
    rw [hw] at hrun
    simp [← hrun]

theorem halt_failed (hh : e.Held) (how : Halt) (hw : e.workloads i = some w) {f : Failure}
    {world : World σ} (hb : b.halt how w e.world = (.error f, world)) :
    halt b how i e = (.error f, { e with world }.record (.halted how i w false)) := by
  obtain ⟨r, hr, hrw⟩ := Option.bind_eq_some_iff.mp hw
  have hrun := hh r (List.mem_of_getElem? hr)
  rw [hrw] at hrun
  simp [halt, hr, hrw, ← hrun, onWorld, hb]

theorem halt_done (hh : e.Held) (how : Halt) (hr : e.runnables[i]? = some r)
    (hw : r.workload = some w) {world : World σ} (hb : b.halt how w e.world = (.ok (), world)) :
    halt b how i e = (.ok (),
      (({ e with world }.record (.halted how i w true)).update i markStopped).unregister
        r.name) := by
  have hrun := hh r (List.mem_of_getElem? hr)
  rw [hw] at hrun
  simp [halt, hr, hw, ← hrun, onWorld, hb]

theorem halt_calm (hh : e.Held) (how : Halt) (i : Nat) :
    ∃ h, Calm e ((halt b how i).after e) h := by
  unfold Act.after
  cases hw : e.workloads i with
  | none => exact ⟨[], by simpa [halt_idle b hh how hw] using Calm.refl hh⟩
  | some w =>
    obtain ⟨r, hr, hrw⟩ := Option.bind_eq_some_iff.mp hw
    rcases hb : b.halt how w e.world with ⟨f | u, world⟩
    · have hc := calm_world hh world
      have hx : Calm { e with world } ({ e with world }.record (.halted how i w false))
          [.halted how i w false] :=
        calm_record hc.held hw rfl (fun _ => rfl) (by
          have hlt := lt_of_workloads hw
          simpa [Within, Happening.runnable?] using hlt)
      rw [halt_failed b hh how hw hb]
      exact ⟨_, hc.trans hx⟩
    · have hc := calm_world hh world
      have hs := calm_struckOff hc.held how (i := i) (w := w) hw
      obtain ⟨notes, hnotes, heq⟩ := unregister_struckOff (e := { e with world }) how hr w
      rw [halt_done b hh how hr hrw hb, heq]
      exact ⟨_, hc.trans (hs.trans (calm_notes hs.held hnotes))⟩

theorem haltAll_calm (hh : e.Held) (i : Nat) (requests : List Halt) :
    ∃ h, Calm e (haltAll b i requests e) h := by
  induction requests generalizing e with
  | nil => exact ⟨[], .refl hh⟩
  | cons how requests ih =>
    obtain ⟨g, hg⟩ := halt_calm b hh how i
    obtain ⟨h, hc⟩ := ih hg.held
    exact ⟨g ++ h, hg.trans hc⟩

theorem running?_eq_some {i : Nat} (hr : e.running? i = some (r, w)) :
    e.runnables[i]? = some r ∧ r.workload = some w ∧ r.lifecycle.isRunning = true := by
  unfold running? at hr
  cases hi : e.runnables[i]? with
  | none => simp [hi] at hr
  | some r' =>
    simp only [hi] at hr
    split at hr
    · next hrun =>
      obtain ⟨w', hw, hp⟩ := Option.map_eq_some_iff.mp hr
      cases hp
      exact ⟨rfl, hw, hrun⟩
    · cases hr

theorem exec_calm (hh : e.Held) (i : Nat) (c : Command) (sinks : ExecSinks) :
    ∃ h, Calm e (exec b i c sinks e).2 h := by
  unfold exec
  cases hr : e.running? i with
  | none => exact ⟨[], .refl hh⟩
  | some p =>
    obtain ⟨r, w⟩ := p
    obtain ⟨hi, hw, -⟩ := running?_eq_some hr
    have hlive : e.workloads i = some w := by rw [workloads_of_getElem? hi, hw]
    have hc := calm_world hh (b.exec w c sinks e.world).2
    have hx := calm_record (x := .executed i w c) hc.held hlive rfl (fun _ => rfl) (by
      have hlt := lt_of_workloads hlive
      simpa [Within, Happening.runnable?] using hlt)
    obtain ⟨h, ha⟩ := haltAll_calm b hx.held i (b.exec w c sinks e.world).1.halts
    exact ⟨_, hc.trans (hx.trans ha)⟩

variable (net : Network σ)

theorem check_calm (hh : e.Held) (i : Nat) (p : Probe) :
    ∃ h, Calm e (check b net i p e).2 h := by
  cases p with
  | http p =>
    simp only [check, checkHttp]
    cases e.address i p.port with
    | error f => exact ⟨[], .refl hh⟩
    | ok address => exact ⟨[], calm_world hh _⟩
  | tcp port =>
    simp only [check, checkTcp]
    cases e.address i port with
    | error f => exact ⟨[], .refl hh⟩
    | ok address => exact ⟨[], calm_world hh _⟩
  | command c =>
    obtain ⟨h, hc⟩ := exec_calm b hh i c .none
    refine ⟨h, ?_⟩
    simp only [check, checkCommand]
    split <;> exact hc

theorem readyRound_calm (hh : e.Held) (i : Nat) (p : Probe) (f : Failure) :
    ∃ h, Calm e (readyRound b net i p f e).2 h := by
  unfold readyRound
  split
  · exact ⟨[], .refl hh⟩
  · obtain ⟨h, hc⟩ := check_calm b net hh i p
    rcases hr : check b net i p e with ⟨f | u, e₁⟩
    · rw [hr] at hc
      exact ⟨h, hc⟩
    · rw [hr] at hc
      exact ⟨_, hc.trans (calm_ready hc.held i)⟩

theorem paced_calm {α β : Type} {round : β → Environment σ κ → (α ⊕ β) × Environment σ κ}
    (hround : ∀ (e : Environment σ κ) last, e.Held → ∃ h, Calm e (round last e).2 h)
    (hh : e.Held) (p : Policy) (last : β) : ∃ h, Calm e (paced p round last e).2 h := by
  refine paced_keeps (P := fun e' => ∃ h, Calm e e' h) (fun last e₁ hbefore => ?_) p last
    ⟨[], .refl hh⟩
  obtain ⟨g, hg⟩ := hbefore
  obtain ⟨h, hc⟩ := hround e₁ last hg.held
  exact ⟨g ++ h, hg.trans hc⟩

theorem waitReady_calm (hh : e.Held) (i : Nat) :
    ∃ h, Calm e ((waitReady b net i).after e) h := by
  unfold Act.after waitReady
  cases e.runnables[i]? with
  | none => exact ⟨[], .refl hh⟩
  | some r =>
    dsimp only
    split
    · exact ⟨[], .refl hh⟩
    · cases r.options.readiness with
      | none => exact ⟨[], calm_ready hh i⟩
      | some p =>
        obtain ⟨h, hc⟩ := paced_calm (fun _ last hh => readyRound_calm b net hh i p last)
          hh r.policy noAttempt
        refine ⟨h, ?_⟩
        dsimp only
        split <;> next heq => rwa [heq] at hc

end Testbed.Environment
