import Testbed.Proofs.Started

/-!
The order of a close: the closers as they were added, then kills against the order of starts,
then the scope, then the directory.
-/
namespace Testbed.Environment

open History

variable {σ κ : Type} {e e' : Environment σ κ} {i : Nat} {w : Workload κ}

section Kills

variable (b : Backend σ κ)

/-- Kills of workloads one after another, whatever becomes of each, as far as the backend is
concerned. -/
def killEach : List (Nat × Workload κ) → World σ → List (Happening κ) × World σ
  | [], world => ([], world)
  | (i, w) :: ws, world =>
    let (result, world) := b.halt .kill w world
    let (h, world) := killEach ws world
    (.halted .kill i w result.isOk :: h, world)

theorem unregister_of_nil (hs : e.started = []) (name : String) : e.unregister name = e := by
  simp [unregister, hs]

theorem halt_shut (hh : e.Held) (hs : e.Shut) (how : Halt) (hw : e.workloads i = some w) :
    Winds e ((halt b how i).after e) [.halted how i w (b.halt how w e.world).1.isOk] ∧
      ((halt b how i).after e).world = (b.halt how w e.world).2 := by
  obtain ⟨r, hr, hrw⟩ := Option.bind_eq_some_iff.mp hw
  unfold Act.after
  rcases hb : b.halt how w e.world with ⟨f | u, world⟩
  · rw [halt_failed b hh how hw hb]
    have hc := calm_world hh world
    have hx := calm_record (x := .halted how i w false) hc.held hw rfl (fun _ => rfl) (by
      have hlt := lt_of_workloads hw
      simpa [Within, Happening.runnable?] using hlt)
    exact ⟨(hc.trans hx).winds hs, rfl⟩
  · rw [halt_done b hh how hr hrw hb]
    have hc := calm_world hh world
    have ho := calm_struckOff hc.held how (i := i) (w := w) hw
    have hnil : (({ e with world }.record (.halted how i w true)).update i
        markStopped).started = [] := hs.started
    have heq : (({ e with world }.record (.halted how i w true)).update i
        markStopped).unregister r.name = struckOff how i w { e with world } := by
      rw [unregister_of_nil hnil]
      simp [struckOff, update, record, hs.started]
    rw [heq]
    exact ⟨(hc.trans ho).winds hs, rfl⟩

theorem Evolves.workloads_of_ne {how : Halt} {ok : Bool} {j : Nat}
    (hv : Evolves e e' [.halted how i w ok]) (hj : j ≠ i) : e'.workloads j = e.workloads j := by
  rw [hv.workloads, live_cons, live_nil]
  refine Happening.apply_eq_of_ne rfl ?_
  cases ok <;> simp [Happening.halts, hj.symm]

theorem killAll_cons (l : List Nat) :
    killAll b (i :: l) e = killAll b l ((halt b .kill i).after e) := rfl

def holders (l : List Nat) (e : Environment σ κ) : List (Nat × Workload κ) :=
  l.filterMap fun i => (e.workloads i).map fun w => (i, w)

theorem killAll_eq_killEach {l : List Nat} (hh : e.Held) (hs : e.Shut) (hn : l.Nodup) :
    Winds e (killAll b l e) (killEach b (e.holders l) e.world).1 ∧
      (killAll b l e).world = (killEach b (e.holders l) e.world).2 := by
  induction l generalizing e with
  | nil => exact ⟨.refl hh hs, rfl⟩
  | cons i l ih =>
    obtain ⟨hi, hn⟩ := List.nodup_cons.mp hn
    rw [killAll_cons]
    cases hw : e.workloads i with
    | none =>
      have hsame : (halt b .kill i).after e = e := by rw [Act.after, halt_idle b hh .kill hw]
      have hrest : e.holders (i :: l) = e.holders l := by simp [holders, hw]
      rw [hsame, hrest]
      exact ih hh hs hn
    | some w =>
      obtain ⟨hk, hworld⟩ := halt_shut b hh hs .kill hw
      have hfirst : e.holders (i :: l) = (i, w) :: e.holders l := by simp [holders, hw]
      have hrest : ((halt b .kill i).after e).holders l = e.holders l := by
        refine List.filterMap_congr fun j hj => ?_
        have hne : j ≠ i := by
          rintro rfl
          exact hi hj
        rw [hk.workloads_of_ne hne]
      obtain ⟨hr, hrw⟩ := ih hk.held hk.shut hn
      rw [hrest, hworld] at hr hrw
      rw [hfirst]
      exact ⟨hk.trans hr, hrw⟩

theorem mem_killEach {ws : List (Nat × Workload κ)} {world : World σ} {x : Happening κ}
    (hx : x ∈ (killEach b ws world).1) : ∃ i w ok, x = .halted .kill i w ok := by
  induction ws generalizing world with
  | nil => cases hx
  | cons p ws ih =>
    rcases List.mem_cons.mp hx with rfl | hx
    · exact ⟨_, _, _, rfl⟩
    · exact ih hx

end Kills

section Closers

variable (b : Backend σ κ) (net : Network σ)

theorem runClosers_idle {cs : List Closer} (hcs : ∀ c ∈ cs, c.requests = []) :
    cs.foldl (fun e c => e.runCloser b net c) e =
      { e with history := e.history ++ cs.map fun c => .ranCloser c.id (e.closerView c) } := by
  induction cs generalizing e with
  | nil => simp
  | cons c cs ih =>
    have hc : e.runCloser b net c = e.noteCloser c := by
      rw [runCloser, hcs c List.mem_cons_self]
      rfl
    rw [List.foldl_cons, hc, ih fun c hc => hcs c (List.mem_cons_of_mem _ hc)]
    simp only [noteCloser, record, List.map_cons, List.append_assoc, List.singleton_append]
    rfl

end Closers

section Trace

variable (b : Backend σ κ) (net : Network σ)

def standing (e : Environment σ κ) : List (Nat × Workload κ) :=
  e.started.reverse.filterMap fun i => (e.workloads i).map fun w => (i, w)

def disposed (e : Environment σ κ) (world : World σ) : World σ :=
  let world := b.destroyScope e.scope world
  { world with
    files := if e.config.keepDir then world.files else world.files.remove e.scope.dir }

theorem release_destroyScope {k : Environment σ κ} (hs : k.scope = e.scope)
    (hc : k.config = e.config) :
    (destroyScope b k).release.world = disposed b e k.world ∧
      (destroyScope b k).release.history =
        k.history ++ [.scopeDestroyed, .released !e.config.keepDir] := by
  constructor
  · simp [release, destroyScope, record, disposed, hs, hc]
  · simp [release, destroyScope, record, hc]

theorem workloads_of_standing {p : Nat × Workload κ} (hp : p ∈ e.standing) :
    e.workloads p.1 = some p.2 := by
  obtain ⟨i, -, hi⟩ := List.mem_filterMap.mp hp
  obtain ⟨w, hw, rfl⟩ := Option.map_eq_some_iff.mp hi
  exact hw

theorem map_filterMap_fst {α β : Type} {f : α → Option β} {l : List α}
    (hf : ∀ a ∈ l, (f a).isSome) :
    (l.filterMap fun a => (f a).map fun c => (a, c)).map (·.1) = l := by
  induction l with
  | nil => rfl
  | cons a l ih =>
    obtain ⟨c, hc⟩ := Option.isSome_iff_exists.mp (hf a List.mem_cons_self)
    simp [hc, ih fun a ha => hf a (List.mem_cons_of_mem _ ha)]

theorem Faithful.standing_eq (hf : e.Faithful) (ho : e.closed = false) :
    e.standing.map (·.1) = e.started.reverse := by
  refine map_filterMap_fst fun i hi => ?_
  rw [List.mem_reverse, hf.started ho] at hi
  rw [hf.workloads]
  exact isSome_of_mem_listed hi

theorem Faithful.nodup_started (hf : e.Faithful) (ho : e.closed = false) : e.started.Nodup := by
  rw [hf.started ho]
  exact nodup_listed hf.orderly

theorem close_after_closers (hh : e.Held) (ho : e.closed = false) (hn : e.started.Nodup) :
    let k := e.runClosers b net
    let kills := killEach b (k.holders e.started.reverse) k.world
    (close b net e).history =
      k.history ++ kills.1 ++ [.scopeDestroyed, .released !e.config.keepDir] ∧
    (close b net e).world = disposed b e kills.2 ∧
    (close b net e).workloads = live k.workloads kills.1 := by
  intro k kills
  obtain ⟨_, hg⟩ := runClosers_winds b net hh
  obtain ⟨hk, hkw⟩ := killAll_eq_killEach b hg.held hg.shut (List.nodup_reverse.mpr hn)
  obtain ⟨hworld, hhist⟩ :=
    release_destroyScope b (hk.scope.trans hg.scope) (hk.config.trans hg.config)
  rw [close_of_open b net ho]
  exact ⟨by rw [hhist, hk.history], by rw [hworld, hkw], hk.workloads⟩

theorem close_of_idle (hf : e.Faithful) (ho : e.closed = false)
    (hcs : ∀ c ∈ e.closers, c.requests = []) :
    (close b net e).history =
      e.history ++ (e.closers.map fun c => .ranCloser c.id (e.sealed.closerView c)) ++
        (killEach b e.standing e.world).1 ++ [.scopeDestroyed, .released !e.config.keepDir] ∧
    (close b net e).world = disposed b e (killEach b e.standing e.world).2 ∧
    (close b net e).workloads = live e.workloads (killEach b e.standing e.world).1 := by
  have hs : e.runClosers b net = { e.sealed with
      history := e.history ++ e.closers.map fun c => .ranCloser c.id (e.sealed.closerView c) } :=
    runClosers_idle b net hcs
  have hclose := close_after_closers b net hf.held ho (hf.nodup_started ho)
  rw [hs] at hclose
  exact hclose

theorem isRunning_close_of_idle (hf : e.Faithful) (ho : e.closed = false)
    (hcs : ∀ c ∈ e.closers, c.requests = []) (hi : i ∈ e.started) :
    (close b net e).isRunning i = false ↔
      ∃ w, .halted .kill i w true ∈ (killEach b e.standing e.world).1 := by
  obtain ⟨_, hwind⟩ := close_winds b net hf.held ho
  have hlive := (close_of_idle b net hf ho hcs).2.2
  have hstood : e.workloads i ≠ none := by
    rw [hf.started ho] at hi
    rw [hf.workloads, ← Option.isSome_iff_ne_none]
    exact isSome_of_mem_listed hi
  rw [hwind.held.isRunning, hlive, Option.isSome_eq_false_iff, Option.isNone_iff_eq_none,
    live_eq_none_iff fun x hx => ?_]
  · constructor
    · rintro (hn | ⟨x, hx, hxi⟩)
      · exact absurd hn hstood
      · obtain ⟨j, w, ok, rfl⟩ := mem_killEach b hx
        obtain ⟨how, w', heq⟩ := Happening.exists_of_halts hxi
        cases heq
        exact ⟨w, hx⟩
    · rintro ⟨w, hw⟩
      exact .inr ⟨_, hw, by simp [Happening.halts]⟩
  · obtain ⟨j, w, ok, rfl⟩ := mem_killEach b hx
    rfl

end Trace

end Testbed.Environment
