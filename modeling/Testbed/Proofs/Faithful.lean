import Testbed.Environment.Creation
import Testbed.Environment.Start
import Testbed.Proofs.Closing

/-!
Environments that are as their histories tell. Creation makes such an environment, and no
request, whatever the backend answers, leads away from them.
-/
namespace Testbed

open Environment History

variable {σ κ : Type} {e e' e'' : Environment σ κ} {g h : List (Happening κ)} {i : Nat}
  {r : Runnable κ} {w : Workload κ}

namespace Environment

/-- The history tells which workloads are held and, while the environment is open, what is
listed as started. -/
structure Faithful (e : Environment σ κ) : Prop where
  held : e.Held
  orderly : Orderly idle e.history
  workloads : e.workloads = live idle e.history
  within : Within e.runnables.length e.history
  started : e.closed = false → e.started = listed e.nameOf [] e.history
  shut : e.closed = true → e.Shut

structure Advances (e e' : Environment σ κ) (h : List (Happening κ)) : Prop
    extends Evolves e e' h where
  closed : e.closed = true → e'.closed = true
  started : e'.closed = false → e'.started = listed e'.nameOf e.started h
  shut : e'.closed = true → e'.Shut

theorem nameOf_of_prefix (hp : e.names <+: e'.names) (hi : i < e.runnables.length) :
    e'.nameOf i = e.nameOf i := by
  have hlt : i < e.names.length := by simpa [Environment.names] using hi
  obtain ⟨rest, hrest⟩ := hp
  rw [nameOf_eq, nameOf_eq, ← hrest, List.getElem?_append_left hlt]

theorem Faithful.advances (hf : e.Faithful) (ha : Advances e e' h) : e'.Faithful where
  held := ha.held
  orderly := by
    rw [ha.history, orderly_append, ← hf.workloads]
    exact ⟨hf.orderly, ha.orderly⟩
  workloads := by rw [ha.history, ha.workloads, hf.workloads, live_append]
  within := by
    rw [ha.history, within_append]
    exact ⟨hf.within.mono ha.length_le, ha.within⟩
  started := by
    intro ho'
    have ho : e.closed = false := by
      cases hc : e.closed with
      | false => rfl
      | true => rw [ha.closed hc] at ho'; cases ho'
    -- new runnables change no name that the history refers to
    have hcongr := listed_congr (l := []) hf.within (by simp)
      fun i hi => nameOf_of_prefix ha.names hi
    rw [ha.started ho', hf.started ho, ha.history, listed_append, hcongr]
  shut := ha.shut

theorem Calm.advances (hf : e.Faithful) (hc : Calm e e' h) : Advances e e' h where
  toEvolves := hc.toEvolves
  closed := fun ho => hc.closed.trans ho
  started := fun _ => by rw [hc.started, funext (nameOf_congr hc.names_eq)]
  shut := fun ho => (hc.winds (hf.shut (hc.closed.symm.trans ho))).shut

theorem Evolves.advances (hv : Evolves e e' h) (hs : e'.Shut) : Advances e e' h where
  toEvolves := hv
  closed := fun _ => hs.closed
  started := fun ho => by rw [hs.closed] at ho; cases ho
  shut := fun _ => hs

variable (b : Backend σ κ) (net : Network σ)

theorem initial_faithful (c : Config) (dir : String) (world : World σ) :
    (initial (κ := κ) c dir world).Faithful where
  held := by simp [Held, initial]
  orderly := trivial
  workloads := rfl
  within := by simp [Within, initial]
  started := fun _ => rfl
  shut := by simp [initial]

theorem create_eq_ok {c : Config} {temp suffix : String} {world : World σ}
    (hc : create b net c temp suffix world = .ok e) :
    ∃ dir world', e = { initial c dir world' with history := [.scopeCreated true] } := by
  unfold create at hc
  split at hc
  · cases hc
  · dsimp only at hc
    split at hc
    · cases hc
    · unfold prepare at hc
      split at hc
      · cases hc
      · next heq =>
        split at hc
        · cases hc
        · next heq' =>
          cases hc
          obtain ⟨-, rfl⟩ := Prod.mk.inj heq
          obtain ⟨-, rfl⟩ := Prod.mk.inj heq'
          exact ⟨_, _, rfl⟩

theorem create_faithful {c : Config} {temp suffix : String} {world : World σ}
    (hc : create b net c temp suffix world = .ok e) : e.Faithful := by
  obtain ⟨dir, world', rfl⟩ := create_eq_ok b net hc
  have hf := initial_faithful (κ := κ) c dir world'
  have hx := calm_record (x := .scopeCreated true) hf.held trivial rfl (fun _ => rfl)
    (by simp [Within, Happening.runnable?])
  exact hf.advances (hx.advances hf)

variable {l : Launching κ} {m : Environment σ κ}

theorem launching_eq (hm : launching b i r e = (l, m)) :
    m = { e with world := m.world }.record (.launched i l.result.toOption) := by
  cases hm
  rfl

theorem launching_frame (hm : launching b i r e = (l, m)) :
    (e.Held → m.Held) ∧ m.closed = e.closed ∧ m.started = e.started ∧
      m.workloads = e.workloads ∧ m.history = e.history ++ [.launched i l.result.toOption] := by
  cases hm
  exact ⟨id, rfl, rfl, rfl, rfl⟩

theorem taken_evolves (hr : e.runnables[i]? = some r) (hi : e.workloads i = none)
    (hm : launching b i r e = (l, m)) (hw : l.result = .ok w) (hl : Launchless h)
    (hv : Evolves m e' h) :
    Evolves e (e'.update i (markRunning w)) (.launched i (some w) :: h) := by
  have heq := launching_eq b hm
  rw [hw] at heq
  rw [heq] at hv
  have hlt : i < e.runnables.length := (List.getElem?_eq_some_iff.mp hr).1
  have hlt' : i < e'.runnables.length := Nat.lt_of_lt_of_le hlt hv.length_le
  obtain ⟨hou, hlive⟩ := live_update (w := w) hv.orderly hl hi
  exact {
    held := held_update hv.held fun _ _ => rfl
    history := by
      rw [update, hv.history]
      simp [record, Except.toOption]
    orderly := ⟨hi, hou⟩
    workloads := by
      rw [workloads_update, hv.workloads, List.getElem?_eq_getElem hlt', Option.bind_some]
      exact hlive.symm
    within := by
      intro x hx j hj
      rw [update, List.length_modify]
      rcases List.mem_cons.mp hx with rfl | hx
      · cases hj
        exact hlt'
      · exact hv.within x hx j hj
    names := by
      rw [names_update (f := markRunning w) fun _ => rfl]
      exact hv.names
    scope := hv.scope
    config := hv.config }

theorem launching_failed_advances (hf : e.Faithful) (hr : e.runnables[i]? = some r)
    (hi : e.workloads i = none) (hm : launching b i r e = (l, m)) {f : Failure}
    (hw : l.result = .error f) : Advances e m [.launched i none] := by
  have hlt := (List.getElem?_eq_some_iff.mp hr).1
  have hv := Evolves.trans (calm_world hf.held m.world).toEvolves
    (record_evolves (x := .launched i none) hf.held hi rfl (fun _ => rfl)
      (by simpa [Within, Happening.runnable?] using hlt))
  have heq := launching_eq b hm
  rw [hw] at heq
  rw [heq]
  exact {
    toEvolves := hv
    closed := fun hc => hc
    started := fun _ => rfl
    shut := fun hc => ⟨hc, (hf.shut hc).started, (hf.shut hc).closers⟩ }

theorem register_advances (hv : Evolves e e' [.launched i (some w)]) (ho : e'.closed = false)
    (hc : e.closed = false) (hs : e'.started = e.started) :
    ∃ notes, Advances e (e'.register i) ([.launched i (some w)] ++ notes) ∧
      Launchless notes := by
  have hv' : Evolves e { e' with started := e'.started ++ [i] } [.launched i (some w)] :=
    { hv with held := hv.held }
  have hn := calm_notes (h := e'.listeners.map fun l =>
    .notified l (snapshot { e' with started := e'.started ++ [i] })) hv'.held
    (by simp [Happening.runnable?])
  refine ⟨_, {
    toEvolves := hv'.trans hn.toEvolves
    closed := fun hc' => ?_
    started := fun _ => ?_
    shut := fun hc' => ?_ }, hn.launchless⟩
  · rw [hc] at hc'
    cases hc'
  · rw [listed_append, ← hs]
    exact hn.started
  · rw [show e'.closed = true from hc'] at ho
    cases ho

theorem start_cases (hh : e.Held) (ho : e.closed = false) (i : Nat) :
    (∃ f, start b net i e = (.error f, e)) ∨
      ∃ r l m, e.runnables[i]? = some r ∧ e.workloads i = none ∧ launching b i r e = (l, m) ∧
        ((∃ f, l.result = .error f ∧
            start b net i e = (.error f, if l.closing then close b net m else m)) ∨
          (∃ w, l.result = .ok w ∧
            start b net i e = (.ok (), (m.update i (markRunning w)).register i)) ∨
          ∃ w f, l.result = .ok w ∧
            start b net i e =
              (.error f, (halt b .kill i).after ((close b net m).update i (markRunning w)))) := by
  cases hr : e.runnables[i]? with
  | none => exact .inl ⟨.environmentClosed e.name, by simp [start, ho, hr]⟩
  | some r =>
    cases hrun : r.lifecycle.isRunning with
    | true => exact .inl ⟨.alreadyRunning r.name, by simp [start, ho, hr, hrun]⟩
    | false =>
      have hi : e.workloads i = none := by
        have hheld := hh r (List.mem_of_getElem? hr)
        rw [workloads_of_getElem? hr]
        simpa [hrun] using hheld
      rcases hm : launching b i r e with ⟨l, m⟩
      refine .inr ⟨r, l, m, rfl, hi, hm, ?_⟩
      obtain ⟨hheld, hmo, -⟩ := launching_frame b hm
      rw [ho] at hmo
      cases hw : l.result with
      | error f => exact .inl ⟨f, rfl, by simp [start, launch, ho, hr, hrun, hm, hw]⟩
      | ok w =>
        cases hcl : l.closing with
        | false =>
          have hs : start b net i e = (.ok (), (m.update i (markRunning w)).register i) := by
            simp [start, launch, ho, hr, hrun, hm, hw, hcl, update, hmo]
          exact .inr (.inl ⟨w, rfl, hs⟩)
        | true =>
          obtain ⟨h, hwd⟩ := close_winds b net (hheld hh) hmo
          have hs : start b net i e =
              (.error (.environmentClosed ((close b net m).update i (markRunning w)).name),
                (halt b .kill i).after ((close b net m).update i (markRunning w))) := by
            simp [start, launch, ho, hr, hrun, hm, hw, hcl, update, hwd.shut.closed]
          exact .inr (.inr ⟨w, _, rfl, hs⟩)

def startedBy (i : Nat) (e : Environment σ κ) : List Nat :=
  match (start b net i e).1 with
  | .ok () => [i]
  | .error _ => []

theorem start_advances (hf : e.Faithful) (ho : e.closed = false) (i : Nat) :
    ∃ h, Advances e ((start b net i).after e) h ∧
      (((start b net i).after e).closed = false → launchedIn h = startedBy b net i e) := by
  unfold startedBy Act.after
  rcases start_cases b net hf.held ho i with ⟨f, heq⟩ | ⟨r, l, m, hr, hi, hm, hcases⟩
  · rw [heq]
    exact ⟨[], (Calm.refl hf.held).advances hf, fun _ => rfl⟩
  obtain ⟨hheld, hmo, hs, -⟩ := launching_frame b hm
  have hheld := hheld hf.held
  rw [ho] at hmo
  rcases hcases with ⟨f, hw, heq⟩ | ⟨w, hw, heq⟩ | ⟨w, f, hw, heq⟩
  · -- the launch fails; the environment may have been closed all the same
    have hfail := launching_failed_advances b hf hr hi hm hw
    rw [heq]
    cases l.closing with
    | false => exact ⟨_, hfail, fun _ => rfl⟩
    | true =>
      obtain ⟨h, hwd⟩ := close_winds b net hheld hmo
      have ha := (hfail.toEvolves.trans hwd.toEvolves).advances hwd.shut
      refine ⟨_, ha, fun _ => ?_⟩
      rw [launchedIn_append, launchedIn_of_launchless hwd.launchless]
      rfl
  · -- the workload comes up in an open environment
    have hv := taken_evolves b hr hi hm hw (by simp [Launchless]) (.refl hheld)
    obtain ⟨notes, ha, hl⟩ := register_advances hv hmo ho hs
    rw [heq]
    refine ⟨_, ha, fun _ => ?_⟩
    rw [launchedIn_append, launchedIn_of_launchless hl]
    rfl
  · -- the environment was closed before the runnable could take its workload
    obtain ⟨h, hwd⟩ := close_winds b net hheld hmo
    have hv := taken_evolves b hr hi hm hw hwd.launchless hwd.toEvolves
    obtain ⟨g, hg⟩ := halt_calm b hv.held .kill i
    have hk := hg.winds ⟨hwd.shut.closed, hwd.shut.started, hwd.shut.closers⟩
    rw [heq]
    refine ⟨_, (hv.trans hk.toEvolves).advances hk.shut, fun ho' => ?_⟩
    rw [hk.shut.closed] at ho'
    cases ho'

theorem addCloser_advances (hf : e.Faithful) (ho : e.closed = false) (id : String)
    (requests : List Request) : Advances e (addCloser b net id requests e) [] := by
  have hc : addCloser b net id requests e =
      { e with closers := e.closers ++ [⟨id, e.runnables.length, requests⟩] } := by
    simp [addCloser, ho]
  rw [hc]
  exact {
    toEvolves := { Evolves.refl hf.held with held := hf.held, history := by simp }
    closed := fun hc => hc
    started := fun _ => rfl
    shut := fun hc => by rw [show e.closed = true from hc] at ho; cases ho }

theorem initialise_advances (hf : e.Faithful) (f : Future) (o : Options) :
    Advances e ((initialise f o).after e) [] := by
  have hv := initialise_evolves hf.held f o
  obtain ⟨rs, heq, -⟩ := initialise_after f o e
  rw [heq] at hv ⊢
  exact {
    toEvolves := hv
    closed := fun hc => hc
    started := fun _ => rfl
    shut := fun hc => ⟨hc, (hf.shut hc).started, (hf.shut hc).closers⟩ }

end Environment

variable (b : Backend σ κ) (net : Network σ)

def Request.starts (e : Environment σ κ) : Request → List Nat
  | .start i => startedBy b net i e
  | _ => []

def Environment.starts : List Request → Environment σ κ → List Nat
  | [], _ => []
  | r :: rs, e => r.starts b net e ++ Environment.starts rs (r.apply b net e)

theorem Request.apply_advances (hf : e.Faithful) (r : Request) :
    ∃ h, Advances e (r.apply b net e) h ∧
      ((r.apply b net e).closed = false → launchedIn h = r.starts b net e) := by
  cases ho : e.closed with
  | true =>
    obtain ⟨h, hw⟩ := r.apply_winds b net hf.held (hf.shut ho)
    refine ⟨h, hw.toEvolves.advances hw.shut, fun ho' => ?_⟩
    rw [hw.shut.closed] at ho'
    cases ho'
  | false =>
    have hclose : ∃ h, Advances e (e.close b net) h ∧
        ((e.close b net).closed = false → launchedIn h = []) := by
      obtain ⟨h, hw⟩ := close_winds b net hf.held ho
      exact ⟨h, hw.toEvolves.advances hw.shut, fun _ => launchedIn_of_launchless hw.launchless⟩
    have hcalm : ∀ h, Calm e (r.apply b net e) h → r.starts b net e = [] →
        ∃ h, Advances e (r.apply b net e) h ∧
          ((r.apply b net e).closed = false → launchedIn h = r.starts b net e) :=
      fun h hc hs =>
        ⟨h, hc.advances hf, fun _ => by rw [hs, launchedIn_of_launchless hc.launchless]⟩
    cases r with
    | reserve name => exact hcalm _ (reserve_calm hf.held name) rfl
    | settle r => exact hcalm _ (settle_calm hf.held r) rfl
    | initialise f o => exact ⟨[], initialise_advances hf f o, fun _ => rfl⟩
    | start i => exact start_advances b net hf ho i
    | halt how i =>
      obtain ⟨h, hc⟩ := halt_calm b hf.held how i
      exact hcalm h hc rfl
    | exec i c sinks =>
      obtain ⟨h, hc⟩ := exec_calm b hf.held i c sinks
      exact hcalm h hc rfl
    | waitReady i =>
      obtain ⟨h, hc⟩ := waitReady_calm b net hf.held i
      exact hcalm h hc rfl
    | addListener id => exact hcalm _ (addListener_calm hf.held id) rfl
    | addCloser id requests =>
      exact ⟨[], addCloser_advances b net hf ho id requests, fun _ => rfl⟩
    | close => exact hclose
    | drop => exact hclose

namespace Environment

theorem Faithful.open_of_run (hf : e.Faithful) {rs : List Request}
    (ho : (run b net rs e).closed = false) : e.closed = false := by
  cases hc : e.closed with
  | false => rfl
  | true =>
    obtain ⟨_, hw⟩ := run_winds b net hf.held (hf.shut hc) rs
    rw [hw.shut.closed] at ho
    cases ho

theorem Faithful.apply (hf : e.Faithful) (r : Request) : (r.apply b net e).Faithful := by
  obtain ⟨h, ha, -⟩ := r.apply_advances b net hf
  exact hf.advances ha

/-- At the end of a run the environment is as its history tells. As long as it is open, its
runnables were launched as often as they were started. -/
theorem run_spec (hf : e.Faithful) (rs : List Request) :
    (run b net rs e).Faithful ∧ ∃ h, Evolves e (run b net rs e) h ∧
      ((run b net rs e).closed = false → launchedIn h = starts b net rs e) := by
  induction rs generalizing e with
  | nil => exact ⟨hf, [], .refl hf.held, fun _ => rfl⟩
  | cons r rs ih =>
    obtain ⟨g, ha, hg⟩ := r.apply_advances b net hf
    have hf' := hf.advances ha
    obtain ⟨hrun, h, hv, hh⟩ := ih hf'
    refine ⟨hrun, g ++ h, ha.toEvolves.trans hv, fun ho => ?_⟩
    rw [launchedIn_append, hg (hf'.open_of_run b net ho), hh ho]
    rfl

/-- Some run from the creation of the environment on leads to it. -/
def Reachable (e : Environment σ κ) : Prop :=
  ∃ c temp suffix world e₀ rs, create b net c temp suffix world = .ok e₀ ∧ e = run b net rs e₀

variable {b net}

theorem Reachable.faithful (hr : e.Reachable b net) : e.Faithful := by
  obtain ⟨c, temp, suffix, world, e₀, rs, hc, rfl⟩ := hr
  exact (run_spec b net (create_faithful b net hc) rs).1

theorem exists_of_toOption {ε α : Type} {x : Except ε α} {p : α → Bool}
    (h : x.toOption.any p = true) : ∃ a, x = .ok a ∧ p a = true := by
  cases x with
  | error f => cases h
  | ok a => exact ⟨a, rfl, h⟩

theorem exists_reachable (b : Backend σ κ) (net : Network σ) (c : Config)
    (temp suffix : String) (world : World σ) (rs : List Request) (p : Environment σ κ → Bool)
    (h : (create b net c temp suffix world).toOption.any (fun e => p (run b net rs e)) = true) :
    ∃ e, Reachable b net e ∧ p e = true := by
  obtain ⟨e₀, hc, hp⟩ := exists_of_toOption h
  exact ⟨run b net rs e₀, ⟨c, temp, suffix, world, e₀, rs, hc, rfl⟩, hp⟩

end Environment

end Testbed
