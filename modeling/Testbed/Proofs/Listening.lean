import Testbed.Proofs.Enduring
import Testbed.StandIn.Backend
import Testbed.StandIn.Network

/-!
What listeners are told. Each change of the list of started runnables is told once to everyone
who listens at the time, in the order in which they joined; nothing else is told, and nothing at
all from the moment an environment is closed.
-/
namespace Testbed

open Environment

variable {σ κ : Type} {e e' : Environment σ κ} {i : Nat} {id : String} {joined : List String}

def Request.joins? : Request → Option String
  | .addListener id => some id
  | _ => none

namespace Environment

def change? (e e' : Environment σ κ) : Option (List (Nat × Option Lifecycle)) :=
  if e'.closed ∨ e'.started = e.started then none else some e'.snapshot

def toldTo (id : String) (e : Environment σ κ) : List (List (Nat × Option Lifecycle)) :=
  e.notices.filterMap fun n => if n.1 = id then some n.2 else none

theorem change?_of_closed (hc : e'.closed = true) : change? e e' = none := if_pos (.inl hc)

theorem change?_of_started (hs : e'.started = e.started) : change? e e' = none :=
  if_pos (.inr hs)

structure Silent (ns : List (String × List (Nat × Option Lifecycle))) (e : Environment σ κ) :
    Prop where
  closed : e.closed = true
  started : e.started = []
  notices : e.notices = ns

theorem Faithful.silent (hf : e.Faithful) (hc : e.closed = true) : Silent e.notices e :=
  ⟨hc, (hf.shut hc).started, rfl⟩

theorem lasting_silent (ns : List (String × List (Nat × Option Lifecycle))) :
    Lasting (Silent (σ := σ) (κ := κ) ns) where
  kept hk h := by
    refine ⟨?_, hk.started.trans h.started, hk.notices.trans h.notices⟩
    rw [hk.rest]
    exact h.closed
  struck hs h := by
    have hstarted := h.started
    refine ⟨?_, ?_, ?_⟩
    · rw [hs.rest]
      exact h.closed
    · rw [hs.rest]
      simp [hstarted]
    · rw [hs.notices, hs.rest]
      simp [hstarted, h.notices]
  ready _ h := ⟨h.closed, h.started, h.notices⟩
  initialised f o h := by
    obtain ⟨rs, heq, -⟩ := initialise_after f o _
    rw [heq]
    exact ⟨h.closed, h.started, h.notices⟩
  aside _ _ _ h := ⟨h.closed, h.started, h.notices⟩

variable (b : Backend σ κ) (net : Network σ)

theorem close_silent (ho : e.closed = false) : Silent e.notices (close b net e) :=
  (lasting_silent e.notices).close b net ho ⟨rfl, rfl, rfl⟩

end Environment

variable (b : Backend σ κ) (net : Network σ)

theorem Request.apply_silent {ns : List (String × List (Nat × Option Lifecycle))}
    (h : Silent ns e) (r : Request) : Silent ns (r.apply b net e) := by
  rw [r.apply_of_closed b net h.closed]
  exact (lasting_silent ns).applyClosed b net r e h

theorem Environment.run_silent {ns : List (String × List (Nat × Option Lifecycle))}
    (h : Silent ns e) (rs : List Request) : Silent ns (run b net rs e) := by
  induction rs generalizing e with
  | nil => exact h
  | cons r rs ih => exact ih (r.apply_silent b net h)

namespace Environment

structure Tells (joined : List String) (e e' : Environment σ κ) : Prop where
  notices : e'.notices =
    e.notices ++ (change? e e').toList.flatMap fun s => e.listeners.map fun l => (l, s)
  listeners : e'.closed = false → e'.listeners = e.listeners ++ joined

theorem Tells.of_started (hs : e'.started = e.started) (hn : e'.notices = e.notices)
    (hl : e'.listeners = e.listeners ++ joined) : Tells joined e e' :=
  ⟨by simp [change?_of_started hs, hn], fun _ => hl⟩

theorem Kept.tells (h : Kept e e') : Tells [] e e' :=
  .of_started h.started h.notices (by simp [h.listeners])

theorem Silent.tells (h : Silent e.notices e') : Tells joined e e' where
  notices := by simp [change?_of_closed h.closed, h.notices]
  listeners := by simp [h.closed]

theorem Handled.tells (ho : e.closed = false) (h : Handled i e e') : Tells [] e e' where
  notices := by
    refine h.notices.trans ?_
    rw [change?, h.closed, ho]
    by_cases hs : e'.started = e.started
    · simp [hs]
    · simp [hs, tidings, h.listeners]
  listeners := by simp [h.listeners]

theorem waitReady_tells (ho : e.closed = false) (i : Nat) :
    Tells [] e ((waitReady b net i).after e) := by
  obtain ⟨e₁, hh, ⟨heq, -⟩ | ⟨f, heq⟩⟩ := waitReady_handled b net i e
  · rw [Act.after, heq]
    rcases hh with hk | hs
    · exact .of_started hk.started hk.notices (by simp [update, hk.listeners])
    · rw [update_markReady_of_stopped hs.isRunning]
      exact Handled.tells ho (.inr hs)
  · rw [Act.after, heq]
    exact hh.tells ho

theorem start_effect (hh : e.Held) (ho : e.closed = false) (i : Nat) :
    (∃ m w, start b net i e = (.ok (), (m.update i (markRunning w)).register i) ∧ Kept e m) ∨
      ∃ f e', start b net i e = (.error f, e') ∧ (Kept e e' ∨ Silent e.notices e') := by
  rcases start_cases b net hh ho i with ⟨f, heq⟩ | ⟨r, l, m, -, -, hm, hcases⟩
  · exact .inr ⟨f, e, heq, .inl (.refl e)⟩
  have hk := launching_kept hm
  have hmo : m.closed = false := (launching_frame b hm).2.1.trans ho
  have hsilent : Silent e.notices (close b net m) := hk.notices ▸ close_silent b net hmo
  rcases hcases with ⟨f, -, heq⟩ | ⟨w, -, heq⟩ | ⟨w, f, -, heq⟩
  · refine .inr ⟨f, _, heq, ?_⟩
    cases l.closing with
    | false => exact .inl hk
    | true => exact .inr hsilent
  · exact .inl ⟨m, w, heq, hk⟩
  · have htaken : Silent e.notices ((close b net m).update i (markRunning w)) :=
      ⟨hsilent.closed, hsilent.started, hsilent.notices⟩
    exact .inr ⟨f, _, heq, .inr ((lasting_silent _).handled (halt_handled b .kill i _) htaken)⟩

theorem Kept.register_tells (h : Kept e e') (ho : e.closed = false) (w : Workload κ) :
    Tells [] e ((e'.update i (markRunning w)).register i) := by
  have hs : ((e'.update i (markRunning w)).register i).started = e.started ++ [i] :=
    congrArg (· ++ [i]) h.started
  have hc : ((e'.update i (markRunning w)).register i).closed = false := by
    rw [h.rest]
    exact ho
  have hl : ((e'.update i (markRunning w)).register i).listeners = e.listeners := h.listeners
  have hn : (e'.update i (markRunning w)).notices = e.notices := h.notices
  refine ⟨(notices_register i _).trans ?_, by simp [hl]⟩
  rw [hn, change?, if_neg (by simp [hs, hc])]
  simp [Environment.tidings, hl]

theorem start_tells (hh : e.Held) (ho : e.closed = false) (i : Nat) :
    Tells [] e ((start b net i).after e) := by
  rcases start_effect b net hh ho i with ⟨m, w, heq, hk⟩ | ⟨f, e', heq, hk | hs⟩
  · rw [Act.after, heq]
    exact hk.register_tells ho w
  · rw [Act.after, heq]
    exact hk.tells
  · rw [Act.after, heq]
    exact hs.tells

end Environment

theorem Request.apply_tells (hf : e.Faithful) (r : Request) :
    Tells r.joins?.toList e (r.apply b net e) := by
  cases ho : e.closed with
  | true =>
    exact (r.apply_silent b net (hf.silent ho)).tells
  | false =>
    cases r with
    | reserve name =>
      obtain ⟨reserved, -, heq⟩ := reserve_after name e
      change Tells [] e ((Environment.reserve name).after e)
      rw [heq]
      exact .of_started rfl rfl (by simp)
    | settle r =>
      obtain ⟨world, heq⟩ := settle_after r e
      change Tells [] e ((Environment.settle r).after e)
      rw [heq]
      exact (kept_world e world).tells
    | initialise f o =>
      obtain ⟨rs, heq, -⟩ := initialise_after f o e
      change Tells [] e ((Environment.initialise f o).after e)
      rw [heq]
      exact .of_started rfl rfl (by simp)
    | start i => exact start_tells b net hf.held ho i
    | halt how i => exact (halt_handled b how i e).tells ho
    | exec i c sinks => exact (exec_handled b i c sinks e).tells ho
    | waitReady i => exact waitReady_tells b net ho i
    | addListener id => exact .of_started rfl rfl rfl
    | addCloser id requests =>
      change Tells [] e (Environment.addCloser b net id requests e)
      rw [Environment.addCloser, ho]
      exact .of_started rfl rfl (by simp)
    | close => exact (close_silent b net ho).tells
    | drop => exact (close_silent b net ho).tells

namespace Environment

/-- What the list becomes in a run, each time that it changes. -/
def changes : List Request → Environment σ κ → List (List (Nat × Option Lifecycle))
  | [], _ => []
  | r :: rs, e => (change? e (r.apply b net e)).toList ++ changes rs (r.apply b net e)

theorem changes_of_silent {ns : List (String × List (Nat × Option Lifecycle))}
    (h : Silent ns e) (rs : List Request) : changes b net rs e = [] := by
  induction rs generalizing e with
  | nil => rfl
  | cons r rs ih =>
    have hr := r.apply_silent b net h
    simp [changes, change?_of_closed hr.closed, ih hr]

theorem toldTo_of_notices (hn : e'.notices = e.notices) : toldTo id e' = toldTo id e := by
  rw [toldTo, toldTo, hn]

theorem filterMap_tidings (id : String) (s : List (Nat × Option Lifecycle))
    (listeners : List String) :
    (listeners.map fun l => (l, s)).filterMap (fun n => if n.1 = id then some n.2 else none) =
      List.replicate (listeners.count id) s := by
  induction listeners with
  | nil => rfl
  | cons l listeners ih =>
    by_cases hl : l = id
    · simpa [hl, List.replicate_succ] using ih
    · simpa [hl] using ih

theorem Tells.toldTo (h : Tells joined e e') (id : String) :
    toldTo id e' =
      toldTo id e ++ (change? e e').toList.flatMap (List.replicate (e.listeners.count id)) := by
  rw [Environment.toldTo, h.notices, List.filterMap_append]
  refine congrArg (Environment.toldTo id e ++ ·) ?_
  cases change? e e' with
  | none => rfl
  | some s => simpa using filterMap_tidings id s e.listeners

theorem run_toldTo (hf : e.Faithful) (rs : List Request)
    (hid : id ∉ rs.filterMap Request.joins?) :
    toldTo id (run b net rs e) =
      toldTo id e ++ (changes b net rs e).flatMap (List.replicate (e.listeners.count id)) := by
  induction rs generalizing e with
  | nil => simp [run, changes]
  | cons r rs ih =>
    have ht := r.apply_tells b net hf
    have hf' := hf.apply b net r
    have hr : id ∉ r.joins?.toList := by
      cases hj : r.joins? with
      | none => simp
      | some j => simp_all
    have hrs : id ∉ rs.filterMap Request.joins? := by
      cases hj : r.joins? <;> simp_all
    have hrest := ih hf' hrs
    rw [ht.toldTo, List.append_assoc] at hrest
    rw [changes, List.flatMap_append]
    refine hrest.trans ?_
    -- once it is closed it does not matter any more who listens
    cases hc : (r.apply b net e).closed with
    | true => simp [changes_of_silent b net (hf'.silent hc)]
    | false => rw [ht.listeners hc, List.count_append, List.count_eq_zero.mpr hr, Nat.add_zero]

theorem run_listeners (hf : e.Faithful) (rs : List Request)
    (ho : (run b net rs e).closed = false) :
    (run b net rs e).listeners = e.listeners ++ rs.filterMap Request.joins? := by
  induction rs generalizing e with
  | nil => simp [run]
  | cons r rs ih =>
    have hf' := hf.apply b net r
    have hrest := ih hf' ho
    rw [(r.apply_tells b net hf).listeners (hf'.open_of_run b net ho), List.append_assoc] at hrest
    refine hrest.trans (congrArg (e.listeners ++ ·) ?_)
    cases hj : r.joins? <;> simp [hj]

theorem start_failed_notices (hf : e.Faithful) {f : Failure} (h : (start b net i e).1 = .error f) :
    ((start b net i).after e).notices = e.notices := by
  cases ho : e.closed with
  | true => rw [Act.after, start_of_closed b net ho]
  | false =>
    rcases start_effect b net hf.held ho i with ⟨m, w, heq, -⟩ | ⟨f, e', heq, hk | hs⟩
    · rw [heq] at h
      cases h
    · rw [Act.after, heq]
      exact hk.notices
    · rw [Act.after, heq]
      exact hs.notices

theorem halt_failed_notices (how : Halt) {f : Failure} (h : (halt b how i e).1 = .error f) :
    ((halt b how i).after e).notices = e.notices := by
  rcases halt_cases b how i e with ⟨e', heq, -⟩ | ⟨f, e', heq, hk⟩
  · rw [heq] at h
    cases h
  · rw [Act.after, heq]
    exact hk.notices

theorem waitReady_notices (h : ((waitReady b net i).after e).isRunning i = e.isRunning i) :
    ((waitReady b net i).after e).notices = e.notices := by
  obtain ⟨e₁, hh, ⟨heq, hrun⟩ | ⟨f, heq⟩⟩ := waitReady_handled b net i e
  · rw [Act.after, heq] at h ⊢
    have hrun' : e₁.isRunning i = true := isRunning_of_update_markReady (h.trans hrun)
    exact hh.notices_of_isRunning (hrun'.trans hrun.symm)
  · rw [Act.after, heq] at h ⊢
    exact hh.notices_of_isRunning h

theorem create_untold {c : Config} {temp suffix : String} {world : World σ}
    (hc : create b net c temp suffix world = .ok e) : e.listeners = [] ∧ e.notices = [] := by
  obtain ⟨dir, world', rfl⟩ := create_eq_ok b net hc
  exact ⟨rfl, rfl⟩

variable {b net}

/-- In a run from a created environment on, the list goes through its changes, and each is told
to those who listen, in the order in which they joined. A listener that joins at any point is
told of the changes from then on, of each once and in their order, and of nothing else. Nothing
is told by what changes nothing, nor by or after a close. -/
theorem listeners_told_of_changes {c : Config} {temp suffix : String} {world : World σ}
    {e₀ : Environment σ κ} (hc : create b net c temp suffix world = .ok e₀) (rs : List Request) :
    let e := run b net rs e₀
    (e.closed = false → e.listeners = rs.filterMap Request.joins?) ∧
    (∀ r : Request, (r.apply b net e).notices = e.notices ++
      (change? e (r.apply b net e)).toList.flatMap fun s => e.listeners.map fun l => (l, s)) ∧
    (∀ id later, id ∉ (rs ++ later).filterMap Request.joins? →
      toldTo id (run b net later (e.addListener id)) =
        changes b net later (e.addListener id)) ∧
    (∀ r : Request, (r.apply b net e).closed = true → (r.apply b net e).notices = e.notices) ∧
    (∀ i f, (start b net i e).1 = .error f → ((start b net i).after e).notices = e.notices) ∧
    (∀ how i f, (halt b how i e).1 = .error f → ((halt b how i).after e).notices = e.notices) ∧
    (∀ how i, e.isRunning i = false → (halt b how i).after e = e) ∧
    (∀ i, ((waitReady b net i).after e).isRunning i = e.isRunning i →
      ((waitReady b net i).after e).notices = e.notices) ∧
    ∀ i command sinks, (exec b i command sinks e).2.isRunning i = e.isRunning i →
      (exec b i command sinks e).2.notices = e.notices := by
  intro e
  have hf₀ := create_faithful b net hc
  have hf : e.Faithful := (run_spec b net hf₀ rs).1
  obtain ⟨hjoined, huntold⟩ := create_untold b net hc
  have hlisteners : e.closed = false → e.listeners = rs.filterMap Request.joins? := by
    intro ho
    simpa [hjoined] using run_listeners b net hf₀ rs ho
  refine ⟨hlisteners, fun r => (r.apply_tells b net hf).notices, fun id later hid => ?_,
    fun r hcl => ?_, fun i f => start_failed_notices b net hf,
    fun how i f => halt_failed_notices b how, fun how i hstop => ?_,
    fun i => waitReady_notices b net,
    fun i command sinks => (exec_handled b i command sinks e).notices_of_isRunning⟩
  · rw [List.filterMap_append, List.mem_append, not_or] at hid
    have hf' : (e.addListener id).Faithful := hf.apply b net (.addListener id)
    have hnone : toldTo id e₀ = [] := by
      rw [toldTo, huntold]
      rfl
    have htold : toldTo id e = [] := by
      have hrun := run_toldTo b net hf₀ rs hid.1
      rw [hnone, hjoined] at hrun
      exact hrun.trans (List.flatMap_eq_nil_iff.mpr fun _ _ => rfl)
    have hadded : toldTo id (e.addListener id) = toldTo id e := toldTo_of_notices rfl
    rw [run_toldTo b net hf' later hid.2, hadded, htold, List.nil_append]
    cases ho : e.closed with
    | true =>
      have hnone := changes_of_silent b net (hf'.silent (e := e.addListener id) ho) later
      simp [hnone]
    | false =>
      have hcount : (e.addListener id).listeners.count id = 1 := by
        simp [addListener, hlisteners ho, List.count_eq_zero.mpr hid.1]
      rw [hcount]
      exact List.flatMap_singleton' _
  · simpa [change?_of_closed hcl] using (r.apply_tells b net hf).notices
  · rw [Act.after, halt_of_stopped b how hstop]

def attending : List Request :=
  [.initialise ⟨"a", .empty⟩ (.ofImage "image"), .initialise ⟨"b", .empty⟩ (.ofImage "image"),
    .addListener "early", .start 0]

theorem listeners_told_of_changes_late : ∃ e₀ : Environment StandIn.State String,
    create StandIn.backend StandIn.network (.ofName "bed") "/tmp" "Ab3dE9"
      ⟨.empty, .empty, .empty⟩ = .ok e₀ ∧
    toldTo "late" (run StandIn.backend StandIn.network [.start 1, .halt .stop 0, .close]
      ((run StandIn.backend StandIn.network attending e₀).addListener "late")) =
      [[(0, some .running), (1, some .running)], [(1, some .running)]] := by
  obtain ⟨e₀, hc, hp⟩ := exists_of_toOption (p := fun e =>
    changes StandIn.backend StandIn.network [.start 1, .halt .stop 0, .close]
      ((run StandIn.backend StandIn.network attending e).addListener "late") =
      [[(0, some .running), (1, some .running)], [(1, some .running)]])
    (x := create StandIn.backend StandIn.network (.ofName "bed") "/tmp" "Ab3dE9"
      ⟨.empty, .empty, .empty⟩) (by decide +kernel)
  have htold := (listeners_told_of_changes hc attending).2.2.1 "late"
    [.start 1, .halt .stop 0, .close] (by decide)
  exact ⟨e₀, hc, htold.trans (of_decide_eq_true hp)⟩

end Environment

end Testbed
