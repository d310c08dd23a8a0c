import Testbed.Proofs.Faithful
import Testbed.StandIn.Backend
import Testbed.StandIn.Network

/-!
The list of started runnables against the runnables themselves, for runs that initialise no name
twice.
-/
namespace Testbed.Environment

open History

variable {σ κ : Type} {e : Environment σ κ} {b : Backend σ κ} {net : Network σ} {i j : Nat}

theorem nameOf_inj (hn : e.names.Nodup) (hi : i < e.runnables.length)
    (hj : j < e.runnables.length) (h : e.nameOf i = e.nameOf j) : i = j := by
  have hi' : i < e.names.length := by simpa [Environment.names] using hi
  have hj' : j < e.names.length := by simpa [Environment.names] using hj
  rw [nameOf_eq, nameOf_eq, List.getElem?_eq_getElem hi', List.getElem?_eq_getElem hj'] at h
  exact hn.getElem_inj_iff.mp h

theorem Faithful.isRunning (hf : e.Faithful) (i : Nat) :
    e.isRunning i = (live idle e.history i).isSome := by
  rw [hf.held.isRunning, hf.workloads]

theorem Faithful.started_eq_filter (hf : e.Faithful) (hn : e.names.Nodup)
    (ho : e.closed = false) :
    e.started = (launchedIn e.history).dedup.filter fun i => e.isRunning i := by
  rw [hf.started ho, listed_eq_filter hf.orderly hf.within fun i hi j hj => nameOf_inj hn hi hj]
  exact List.filter_congr fun i _ => (hf.isRunning i).symm

theorem Faithful.mem_launchedIn (hf : e.Faithful) (hi : e.isRunning i = true) :
    i ∈ launchedIn e.history := by
  rw [hf.isRunning] at hi
  obtain ⟨post, ⟨pre, w, hh⟩, -⟩ := (exists_since_iff rfl).mpr hi
  exact History.mem_launchedIn.mpr ⟨.launched i (some w), by simp [hh],
    by simp [Happening.launches, Happening.launchOf?]⟩

theorem isRunning_iff_lifecycle (l : Lifecycle) :
    l.isRunning = true ↔ l = .running ∨ l = .ready := by
  cases l <;> simp [Lifecycle.isRunning]

/-- A runnable holds a workload exactly in the states running and ready. While the environment
is open, the runnables listed are those that run, each once; `List.dedup` keeps the last
occurrence of each, so they stand in the order of their most recent starts. -/
theorem started_lists_running {c : Config} {temp suffix : String} {world : World σ}
    {e₀ : Environment σ κ} (hc : create b net c temp suffix world = .ok e₀)
    (rs : List Request) :
    (∀ r ∈ (run b net rs e₀).runnables,
      r.workload.isSome = true ↔ r.lifecycle = .running ∨ r.lifecycle = .ready) ∧
    ((run b net rs e₀).names.Nodup → (run b net rs e₀).closed = false →
      (∀ i, i ∈ (run b net rs e₀).started ↔ (run b net rs e₀).isRunning i = true) ∧
      (run b net rs e₀).started.Nodup ∧
      (run b net rs e₀).started =
        (starts b net rs e₀).dedup.filter fun i => (run b net rs e₀).isRunning i) := by
  obtain ⟨hf, h, hv, hstarts⟩ := run_spec b net (create_faithful b net hc) rs
  constructor
  · intro r hr
    rw [hf.held r hr, isRunning_iff_lifecycle]
  intro hn ho
  have heq := hf.started_eq_filter hn ho
  refine ⟨fun i => ?_, ?_, ?_⟩
  · rw [heq, List.mem_filter, List.mem_dedup]
    exact ⟨fun hi => hi.2, fun hi => ⟨hf.mem_launchedIn hi, hi⟩⟩
  · rw [heq]
    exact (List.nodup_dedup _).filter _
  · have hcreated : launchedIn e₀.history = [] := by
      obtain ⟨dir, world', rfl⟩ := create_eq_ok b net hc
      rfl
    rw [heq, hv.history, launchedIn_append, hcreated, hstarts ho, List.nil_append]

def restarting : List Request :=
  [.initialise ⟨"a", .empty⟩ (.ofImage "image"), .initialise ⟨"b", .empty⟩ (.ofImage "image"),
    .start 0, .start 1, .halt .stop 0, .start 0]

theorem started_lists_running_restarting : ∃ e₀ : Environment StandIn.State String,
    create StandIn.backend StandIn.network (.ofName "bed") "/tmp" "Ab3dE9"
      ⟨.empty, .empty, .empty⟩ = .ok e₀ ∧
    (run StandIn.backend StandIn.network restarting e₀).started = [1, 0] ∧
    ∀ i, i ∈ [1, 0] ↔
      (run StandIn.backend StandIn.network restarting e₀).isRunning i = true := by
  obtain ⟨e₀, hc, hp⟩ := exists_of_toOption (p := fun e =>
    let e := run StandIn.backend StandIn.network restarting e
    e.names.Nodup ∧ e.closed = false ∧ e.started = [1, 0])
    (x := create StandIn.backend StandIn.network (.ofName "bed") "/tmp" "Ab3dE9"
      ⟨.empty, .empty, .empty⟩) (by decide +kernel)
  obtain ⟨hn, ho, hs⟩ := of_decide_eq_true hp
  refine ⟨e₀, hc, hs, fun i => ?_⟩
  rw [← hs]
  exact ((started_lists_running hc restarting).2 hn ho).1 i

end Testbed.Environment
