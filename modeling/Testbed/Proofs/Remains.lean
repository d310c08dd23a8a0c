import Testbed.Proofs.Creating
import Testbed.Proofs.Enduring
import Testbed.Proofs.Sparing

/-!
A close as a whole, and the shared directory after it. A close removes the directory, unless it is
to be kept. In a closed environment everything leaves it as it is but a reservation that is
settled, which makes the working directory of a runnable and with it the directory above.
-/
namespace Testbed

open Environment

variable {σ κ : Type} {b : Backend σ κ} {net : Network σ} {e e' : Environment σ κ} {dir : String}

namespace Environment

def hasDir (e : Environment σ κ) : Bool := e.world.files.exists? e.scope.dir

theorem reserve_spared (name : String) (e : Environment σ κ) :
    Spared dir e.world ((reserve name).after e).world := by
  obtain ⟨reserved, -, heq⟩ := reserve_after name e
  rw [heq]
  rfl

theorem initialise_spared (f : Future) (o : Options) (e : Environment σ κ) :
    Spared dir e.world ((initialise f o).after e).world := by
  obtain ⟨rs, heq, -⟩ := initialise_after f o e
  rw [heq]
  rfl

theorem world_unregister (name : String) (e : Environment σ κ) :
    (e.unregister name).world = e.world := by
  rw [unregister_frame]

theorem halt_spared (hb : b.Spares dir) (how : Halt) (i : Nat) (e : Environment σ κ) :
    Spared dir e.world ((halt b how i).after e).world := by
  unfold Act.after halt
  cases e.runnables[i]? with
  | none => rfl
  | some r =>
    dsimp only
    split
    · rfl
    · cases r.workload with
      | none =>
        dsimp only
        rw [world_unregister]
        rfl
      | some w =>
        have hspared := hb.halt how w e.world
        rcases hw : b.halt how w e.world with ⟨f | ⟨⟩, world⟩ <;> rw [hw] at hspared <;>
          simp only [onWorld, hw]
        · exact hspared
        · rw [world_unregister]
          exact hspared

theorem haltAll_spared (hb : b.Spares dir) (i : Nat) (requests : List Halt)
    (e : Environment σ κ) : Spared dir e.world (haltAll b i requests e).world := by
  induction requests generalizing e with
  | nil => rfl
  | cons how requests ih => exact (halt_spared hb how i e).trans (ih _)

theorem exec_spared (hb : b.Spares dir) (i : Nat) (c : Command) (sinks : ExecSinks)
    (e : Environment σ κ) : Spared dir e.world (exec b i c sinks e).2.world := by
  unfold exec
  cases e.running? i with
  | none => rfl
  | some p =>
    obtain ⟨r, w⟩ := p
    exact (hb.exec w c sinks e.world).trans (haltAll_spared hb i _ _)

theorem check_spared (hb : b.Spares dir) (hnet : net.Spares dir) (i : Nat) (p : Probe)
    (e : Environment σ κ) : Spared dir e.world (check b net i p e).2.world := by
  cases p with
  | http p =>
    simp only [check, checkHttp]
    cases e.address i p.port with
    | error f => rfl
    | ok address => exact hnet.get _ e.world
  | tcp port =>
    simp only [check, checkTcp]
    cases e.address i port with
    | error f => rfl
    | ok address => exact hnet.dial address e.world
  | command c =>
    have hexec := exec_spared hb i c .none e
    simp only [check, checkCommand]
    split <;> exact hexec

theorem readyRound_spared (hb : b.Spares dir) (hnet : net.Spares dir) (i : Nat) (p : Probe)
    (last : Failure) (e : Environment σ κ) :
    Spared dir e.world (readyRound b net i p last e).2.world := by
  have hcheck := check_spared hb hnet i p e
  unfold readyRound
  split
  · rfl
  · rcases hc : check b net i p e with ⟨f | ⟨⟩, e₁⟩ <;> rwa [hc] at hcheck

theorem waitReady_spared (hb : b.Spares dir) (hnet : net.Spares dir) (i : Nat)
    (e : Environment σ κ) : Spared dir e.world ((waitReady b net i).after e).world := by
  unfold Act.after waitReady
  cases e.runnables[i]? with
  | none => rfl
  | some r =>
    dsimp only
    split
    · rfl
    · cases r.options.readiness with
      | none => rfl
      | some p =>
        have hwait :
            Spared dir e.world (paced r.policy (readyRound b net i p) noAttempt e).2.world :=
          paced_keeps (P := fun e' : Environment σ κ => Spared dir e.world e'.world)
            (fun last e' h => h.trans (readyRound_spared hb hnet i p last e')) _ _
            (spared_of_files rfl)
        dsimp only
        split <;> next heq => rwa [heq] at hwait

theorem hasDir_settle {r : Reservation} (hn : isLabel r.name = true) (e : Environment σ κ) :
    ((settle r).after e).hasDir = (e.hasDir || (settle r e).1.isOk) := by
  unfold Act.after
  rcases settle_cases r e with ⟨files, hmade, heq⟩ | ⟨f, heq⟩
  · have hthere : files.exists? e.scope.dir = true :=
      (Files.makeDirectories_join_spec hn hmade).2
    rw [heq]
    simp [hasDir, hthere, Except.isOk, Except.toBool]
  · rw [heq]
    simp [Except.isOk, Except.toBool]

end Environment

mutual

def Request.reservations : Request → List Reservation
  | .settle r => [r]
  | .addCloser _ requests => Request.allReservations requests
  | _ => []

def Request.allReservations : List Request → List Reservation
  | [] => []
  | r :: rs => r.reservations ++ Request.allReservations rs

end

section Settling

variable (b : Backend σ κ) (net : Network σ)

mutual

/-- Whether a request settles a reservation in an environment that is closed. -/
def Request.settles : Request → Environment σ κ → Bool
  | .settle r, e => (Environment.settle r e).1.isOk
  | .addCloser id requests, e =>
    Request.anySettles requests (e.noteCloser ⟨id, e.runnables.length, requests⟩)
  | _, _ => false

def Request.anySettles : List Request → Environment σ κ → Bool
  | [], _ => false
  | r :: rs, e => r.settles e || Request.anySettles rs (r.applyClosed b net e)

end

end Settling

mutual

theorem Request.exists?_applyClosed (hb : b.Spares dir) (hnet : net.Spares dir) :
    (r : Request) → (e : Environment σ κ) → e.scope.dir = dir →
      (∀ s ∈ r.reservations, isLabel s.name = true) →
      (r.applyClosed b net e).world.files.exists? dir =
        (e.world.files.exists? dir || r.settles b net e)
  | .settle r, e, hd, hn => by
    subst hd
    obtain ⟨world, heq⟩ := settle_after r e
    have hsettle := hasDir_settle (hn r List.mem_cons_self) e
    rw [heq] at hsettle
    rw [Request.applyClosed, heq]
    exact hsettle
  | .addCloser id requests, e, hd, hn =>
    Request.exists?_applyAllClosed hb hnet requests
      (e.noteCloser ⟨id, e.runnables.length, requests⟩) hd hn
  | .reserve name, e, _, _ => (reserve_spared name e).or_false
  | .initialise f o, e, _, _ => (initialise_spared f o e).or_false
  | .halt how i, e, _, _ => (halt_spared hb how i e).or_false
  | .exec i c sinks, e, _, _ => (exec_spared hb i c sinks e).or_false
  | .waitReady i, e, _, _ => (waitReady_spared hb hnet i e).or_false
  | .addListener _, e, _, _ => (Spared.refl dir e.world).or_false
  | .start _, e, _, _ => (Spared.refl dir e.world).or_false
  | .close, e, _, _ => (Spared.refl dir e.world).or_false
  | .drop, e, _, _ => (Spared.refl dir e.world).or_false

theorem Request.exists?_applyAllClosed (hb : b.Spares dir) (hnet : net.Spares dir) :
    (rs : List Request) → (e : Environment σ κ) → e.scope.dir = dir →
      (∀ s ∈ Request.allReservations rs, isLabel s.name = true) →
      (Request.applyAllClosed b net rs e).world.files.exists? dir =
        (e.world.files.exists? dir || Request.anySettles b net rs e)
  | [], e, _, _ => (Spared.refl dir e.world).or_false
  | r :: rs, e, hd, hn => by
    have hscope : (r.applyClosed b net e).scope = e.scope :=
      ((enduring_retains b e).toLasting.applyClosed b net r e (.refl e)).scope
    have hfirst := Request.exists?_applyClosed hb hnet r e hd fun s hs =>
      hn s (List.mem_append_left _ hs)
    -- the scope stays the same, so the requests after the first are about the same directory
    have hrest := Request.exists?_applyAllClosed hb hnet rs (r.applyClosed b net e)
      (hscope ▸ hd) fun s hs => hn s (List.mem_append_right _ hs)
    rw [Request.applyAllClosed, hrest, hfirst, Request.anySettles, Bool.or_assoc]

end

namespace Environment

theorem enduring_labels (b : Backend σ κ) :
    Enduring b fun e : Environment σ κ => ∀ n ∈ e.reserved, isLabel n = true where
  toLasting := lasting_of_frame (fun _ _ _ _ h => h) fun _ _ ha h => by
    rcases ha with rfl | ⟨name, hn, -, -, rfl⟩
    · exact h
    · exact List.forall_mem_cons.mpr ⟨hn, h⟩
  registry _ _ _ _ _ h := h
  taken _ _ _ h := h

theorem Reachable.isLabel_of_reserved (hr : e.Reachable b net) :
    ∀ n ∈ e.reserved, isLabel n = true :=
  hr.enduring (enduring_labels b) fun _ _ _ => by simp [initial]

theorem Reachable.made (hr : e.Reachable b net) :
    ∃ base w w₁, makeDirectory (σ := σ) base e.scope.dir w = (.ok (), w₁) := by
  obtain ⟨c, temp, suffix, w, e₀, rs, hc, rfl⟩ := hr
  obtain ⟨hv, w₁, w₂, w₃, hdir, hlogs, hscope⟩ := granted_of_create b net hc
  -- the environment has the scope whose directory was made
  cases hc.symm.trans (create_of_granted b net hv hdir hlogs hscope)
  rw [(run_retains net b _ rs).scope]
  exact ⟨_, w, w₁, hdir⟩

theorem hasDir_close (hr : e.Reachable b net) (ho : e.closed = false)
    (hk : e.config.keepDir = false) : (close b net e).hasDir = false := by
  obtain ⟨base, w, w₁, hmade⟩ := hr.made
  have hf := hr.faithful
  have hworld := (close_after_closers b net hf.held ho (hf.nodup_started ho)).2.1
  rw [hasDir, close_scope, hworld]
  exact (cleared_disposed b hmade _).gone hk

/-- A close runs the closers in the order in which they were added, kills what was started, the
last one first and every one whatever became of those before, destroys the scope, and gives up
the directory. What was started does not run any more exactly if its kill succeeded. From then
on a close and a drop do nothing, and a closer is run as soon as it is added, and not kept. -/
theorem close_trace (hr : e.Reachable b net) (ho : e.closed = false)
    (hcs : ∀ c ∈ e.closers, c.requests = []) :
    e.standing.map (·.1) = e.started.reverse ∧
    (∀ p ∈ e.standing, e.workloads p.1 = some p.2) ∧
    (close b net e).history =
      e.history ++ (e.closers.map fun c => .ranCloser c.id (e.sealed.closerView c)) ++
        (killEach b e.standing e.world).1 ++ [.scopeDestroyed, .released !e.config.keepDir] ∧
    (close b net e).world = disposed b e (killEach b e.standing e.world).2 ∧
    (e.config.keepDir = false → (close b net e).hasDir = false) ∧
    (close b net e).closed = true ∧
    (close b net e).started = [] ∧
    (∀ i ∈ e.started, (close b net e).isRunning i = false ↔
      ∃ w, .halted .kill i w true ∈ (killEach b e.standing e.world).1) ∧
    ∀ rs, ∀ later, later = run b net rs (close b net e) →
      Request.close.apply b net later = later ∧ Request.drop.apply b net later = later ∧
      later.closers = [] ∧
      ∀ id requests, addCloser b net id requests later =
        Request.applyAllClosed b net requests
          (later.noteCloser ⟨id, later.runnables.length, requests⟩) := by
  have hf := hr.faithful
  obtain ⟨_, hwind⟩ := close_winds b net hf.held ho
  obtain ⟨hhist, hworld, -⟩ := close_of_idle b net hf ho hcs
  refine ⟨hf.standing_eq ho, fun p hp => workloads_of_standing hp, hhist, hworld,
    hasDir_close hr ho, hwind.shut.closed, hwind.shut.started,
    fun i hi => isRunning_close_of_idle b net hf ho hcs hi, fun rs later hl => ?_⟩
  obtain ⟨_, hlater⟩ := run_winds b net hwind.held hwind.shut rs
  rw [← hl] at hlater
  have hc := hlater.shut.closed
  exact ⟨close_of_closed b net hc, close_of_closed b net hc, hlater.shut.closers,
    fun id requests => addCloser_of_closed b net hc id requests⟩

theorem close_trace_of_failing_kill : ∃ e : Environment StandIn.State String,
    e.Reachable StandIn.backend StandIn.network ∧ e.started = [0, 1] ∧
    e.standing.map (·.1) = [1, 0] ∧
    (close StandIn.backend StandIn.network e).isRunning 0 = true ∧
    e.hasDir = true ∧ (close StandIn.backend StandIn.network e).hasDir = false ∧
    Request.drop.apply StandIn.backend StandIn.network
      (close StandIn.backend StandIn.network e) = close StandIn.backend StandIn.network e := by
  obtain ⟨e, hr, hp⟩ := exists_reachable StandIn.backend StandIn.network (.ofName "bed") "/tmp"
    "Ab3dE9" ⟨.empty, .empty, { StandIn.State.empty with
      staging := { StandIn.Staging.empty with haltFails := ["a"] } }⟩
    [.initialise ⟨"a", .empty⟩ (.ofImage "image"),
      .initialise ⟨"b", .empty⟩ (.ofImage "image"), .addCloser "c" [], .start 0, .start 1]
    (fun e => e.closed = false ∧ e.started = [0, 1] ∧
      e.closers.all (fun c => c.requests.isEmpty) ∧ e.config.keepDir = false ∧ e.hasDir = true ∧
      (close StandIn.backend StandIn.network e).isRunning 0 = true) (by decide +kernel)
  obtain ⟨ho, hs, hcs, hk, hdir, hrun⟩ := of_decide_eq_true hp
  obtain ⟨hstanding, -, -, -, hgone, -, -, -, hlater⟩ := close_trace hr ho fun c hc => by
    simpa using List.all_eq_true.mp hcs c hc
  rw [hs] at hstanding
  exact ⟨e, hr, hs, hstanding, hrun, hdir, hgone hk, (hlater [] _ rfl).2.1⟩

/-- A close removes the shared directory. After it, whatever is asked of the environment and of
what is in it, the directory is back exactly if a reservation from before has been settled. -/
theorem directory_after_close (hr : e.Reachable b net) (hb : b.Spares e.scope.dir)
    (hnet : net.Spares e.scope.dir) (rs : List Request)
    (hrs : ∀ r ∈ Request.allReservations rs, r.name ∈ e.reserved) :
    let c := close b net e
    (e.closed = false → e.config.keepDir = false → c.hasDir = false) ∧
    (run b net rs c).hasDir = (c.hasDir || Request.anySettles b net rs c) := by
  refine ⟨hasDir_close hr, ?_⟩
  have hscope := close_scope net b e
  have hlabels : ∀ r ∈ Request.allReservations rs, isLabel r.name = true :=
    fun r hm => hr.isLabel_of_reserved _ (hrs r hm)
  rw [hasDir, hasDir, (run_retains net b _ rs).scope, run_of_closed (close_closed b net e), hscope]
  exact Request.exists?_applyAllClosed hb hnet rs _ (congrArg Scope.dir hscope) hlabels

def unsettling : List Request :=
  [.reserve "b", .initialise ⟨"a", .empty⟩ (.ofImage "image"), .start 0, .halt .stop 0,
    .exec 0 ⟨"true", [], false⟩ .none, .waitReady 0, .addListener "late",
    .addCloser "last" [.halt .kill 0, .start 0], .close, .drop]

theorem exists_reserved : ∃ e : Environment StandIn.State String,
    e.Reachable StandIn.backend StandIn.network ∧ e.closed = false ∧ e.config.keepDir = false ∧
    e.hasDir = true ∧ "a" ∈ e.reserved ∧
    Request.anySettles StandIn.backend StandIn.network unsettling
      (close StandIn.backend StandIn.network e) = false ∧
    (settle ⟨"a", .empty⟩ (close StandIn.backend StandIn.network e)).1.isOk = true := by
  obtain ⟨e, hr, hp⟩ := exists_reachable StandIn.backend StandIn.network (.ofName "bed") "/tmp"
    "Ab3dE9" ⟨.empty, .empty, StandIn.State.empty⟩
    [.reserve "a", .initialise ⟨"c", .empty⟩ (.ofImage "image"), .start 0]
    (fun e => e.closed = false ∧ e.config.keepDir = false ∧ e.hasDir = true ∧ "a" ∈ e.reserved ∧
      Request.anySettles StandIn.backend StandIn.network unsettling
        (close StandIn.backend StandIn.network e) = false ∧
      (settle ⟨"a", .empty⟩ (close StandIn.backend StandIn.network e)).1.isOk = true)
    (by decide +kernel)
  exact ⟨e, hr, of_decide_eq_true hp⟩

theorem directory_after_close_settling : ∃ e : Environment StandIn.State String,
    e.Reachable StandIn.backend StandIn.network ∧ e.hasDir = true ∧
    let c := close StandIn.backend StandIn.network e
    c.hasDir = false ∧ (run StandIn.backend StandIn.network unsettling c).hasDir = false ∧
    (run StandIn.backend StandIn.network [.settle ⟨"a", .empty⟩] c).hasDir = true := by
  obtain ⟨e, hr, ho, hk, hdir, hn, hquiet, hsettle⟩ := exists_reserved
  have hb := StandIn.backend_spares e.scope.dir
  have hnet := StandIn.network_spares e.scope.dir
  obtain ⟨hgone, hlater⟩ := directory_after_close hr hb hnet unsettling
    (by simp [unsettling, Request.allReservations, Request.reservations])
  obtain ⟨-, hback⟩ := directory_after_close hr hb hnet [.settle ⟨"a", .empty⟩]
    (by simpa [Request.allReservations, Request.reservations] using hn)
  refine ⟨e, hr, hdir, hgone ho hk, ?_, ?_⟩
  · rw [hlater, hgone ho hk, hquiet, Bool.or_false]
  · rw [hback, Request.anySettles, Request.settles, hsettle, Bool.true_or, Bool.or_true]

theorem directory_back_after_close : ¬∀ e : Environment StandIn.State String,
    e.Reachable StandIn.backend StandIn.network → e.config.keepDir = false → e.closed = false →
    (close StandIn.backend StandIn.network e).hasDir = false →
    ∀ rs, (∀ r ∈ Request.allReservations rs, r.name ∈ e.reserved) →
      (run StandIn.backend StandIn.network rs
        (close StandIn.backend StandIn.network e)).hasDir = false := by
  intro hall
  obtain ⟨e, hr, ho, hk, -, hn, -, hsettle⟩ := exists_reserved
  have hgone := hall e hr hk ho (hasDir_close hr ho hk) [.settle ⟨"a", .empty⟩]
    (by simpa [Request.allReservations, Request.reservations] using hn)
  have hback := hasDir_settle (r := ⟨"a", .empty⟩) (by decide)
    (close StandIn.backend StandIn.network e)
  rw [hsettle, Bool.or_true] at hback
  exact Bool.false_ne_true (hgone.symm.trans hback)

end Environment

end Testbed
