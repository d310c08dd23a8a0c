import Testbed.Proofs.Enduring
import Testbed.Proofs.FailedLaunch
import Testbed.StandIn.Backend
import Testbed.StandIn.Network
import Testbed.StandIn.Tools

/-!
Where ports are reached. Each backend resolves the ports that a launch declares, all of them and
no others, so that what an environment tells of a port depends on two things only: whether the
port was declared, and whether its runnable runs.
-/
namespace Testbed

open Environment

variable {σ κ : Type} {b : Backend σ κ} {e : Environment σ κ} {r : Runnable κ} {w : Workload κ}
  {p : String}

namespace Backend

def Resolves (b : Backend σ κ) : Prop :=
  ∀ l world w, (b.launch l world).1.result = .ok w → w.ports.keys = l.ports.keys

def Locates (b : Backend σ κ) : Prop := ∀ scope runnable n, b.internalAddress scope runnable n ≠ ""

end Backend

section Resolving

variable {l : Launch} {ports : Ports}

theorem StandIn.keys_assignPorts {world world' : World StandIn.State}
    (h : StandIn.assignPorts l world = (.ok ports, world')) : ports.keys = l.ports.keys :=
  Table.keys_mapAct h

theorem StandIn.resolves : StandIn.backend.Resolves := by
  intro l world w h
  have hw : (StandIn.launch l world).1 = .ok w := by rw [← h, StandIn.backend]
  have hl : StandIn.launch l world = (.ok w, (StandIn.launch l world).2) := Prod.ext hw rfl
  unfold StandIn.launch at hl
  obtain ⟨refused, _, -, hl⟩ := Act.bind_eq_ok.mp hl
  cases refused with
  | true =>
    obtain ⟨_, _, hfail, -⟩ := Act.bind_eq_ok.mp hl
    cases hfail
  | false =>
    obtain ⟨ports, _, hports, hl⟩ := Act.bind_eq_ok.mp hl
    cases hl
    exact StandIn.keys_assignPorts hports

theorem Docker.keys_bringUp {ts : Tools σ} {d : Docker.Engine} {c : Docker.Container}
    {world world' : World σ} (h : d.bringUp ts l c world = (.ok ports, world')) :
    ports.keys = l.ports.keys := by
  unfold Docker.Engine.bringUp Docker.Engine.hostPorts at h
  obtain ⟨_, _, -, hports⟩ := Act.bind_eq_ok.mp h
  exact Table.keys_mapAct hports

theorem Docker.resolves (ts : Tools σ) (d : Docker.Engine) : (Docker.backend ts d).Resolves := by
  intro l world w h
  have hw : (d.launch ts l world).1 = .ok w := by rw [← h, Docker.backend]
  rcases hp : d.prepare l world with ⟨f | ⟨⟩, w₁⟩
  · rw [Docker.Engine.launch_unprepared hp] at hw
    cases hw
  · rcases hs : d.start ts l w₁ with ⟨f | process, w₂⟩
    · rw [Docker.Engine.launch_unstarted hp hs] at hw
      cases hw
    · rcases hb : d.bringUp ts l (Docker.Engine.launched l process) w₂ with ⟨f | ports, w₃⟩
      · rw [Docker.Engine.launch_failed hp hs hb] at hw
        cases hw
      · rw [Docker.Engine.launch_done hp hs hb] at hw
        rw [← Except.ok.inj hw]
        exact Docker.keys_bringUp hb

theorem Kind.keys_readNodePorts {command output : String} {declared : Ports}
    (h : Kind.readNodePorts command output declared = .ok ports) : ports.keys = declared.keys := by
  unfold Kind.readNodePorts at h
  cases hd : Kind.decode Kind.servicePorts? command output with
  | error f => simp [hd, bind, Except.bind] at h
  | ok exposed =>
    simp only [hd, bind, Except.bind] at h
    cases hn : Kind.nodePorts exposed declared with
    | error f => simp [hn, Kind.orParse] at h
    | ok ports' =>
      rw [hn] at h
      cases h
      unfold Kind.nodePorts at hn
      split at hn
      · cases hn
      · exact Table.keys_mapM hn

theorem Kind.keys_hostPorts {ts : Tools σ} {kubectl : Tool} {runnable : String} {declared : Ports}
    {world world' : World σ}
    (h : Kind.Engine.hostPorts ts kubectl runnable declared world = (.ok ports, world')) :
    ports.keys = declared.keys := by
  unfold Kind.Engine.hostPorts at h
  split at h
  · next hempty =>
    cases h
    have hnil : declared.entries = [] := List.isEmpty_iff.mp hempty
    simp [Table.keys, Table.empty, hnil]
  · obtain ⟨output, _, -, h⟩ := Act.bind_eq_ok.mp h
    exact Kind.keys_readNodePorts (Prod.mk.inj h).1

theorem Kind.keys_bringUp {ts : Tools σ} {k : Kind.Engine} {world world' : World σ}
    (h : k.bringUp ts l world = (.ok ports, world')) : ports.keys = l.ports.keys := by
  unfold Kind.Engine.bringUp Kind.Engine.deploy at h
  obtain ⟨_, _, -, h⟩ := Act.bind_eq_ok.mp h
  obtain ⟨_, _, -, h⟩ := Act.bind_eq_ok.mp h
  exact Kind.keys_hostPorts h

theorem Kind.resolves (ts : Tools σ) (k : Kind.Engine) : (Kind.backend ts k).Resolves := by
  intro l world w h
  have hw : (k.launch ts l world).1 = .ok w := by rw [← h, Kind.backend]
  rw [Kind.Engine.launch_eq] at hw
  rcases hp : k.prepare l world with ⟨f | address, w₁⟩
  · rw [Act.bind_error hp] at hw
    cases hw
  · rw [Act.bind_ok hp] at hw
    rcases hb : k.bringUp ts l w₁ with ⟨f | ports, w₂⟩
    · rw [Kind.Engine.conclude_failed ts address hb] at hw
      cases hw
    · obtain ⟨deployed, hdone⟩ := Kind.Engine.conclude_done ts address hb
      rw [hdone] at hw
      rw [← Except.ok.inj hw]
      exact Kind.keys_bringUp hb

end Resolving

theorem address_ne {s : String} (hs : ':' ∉ s.toList) (host port : String) :
    host ++ ":" ++ port ≠ s := by
  intro h
  apply hs
  rw [← h]
  simp

theorem StandIn.locates : StandIn.backend.Locates := fun _ _ _ => address_ne (by decide) _ _

theorem Docker.locates (ts : Tools σ) (d : Docker.Engine) : (Docker.backend ts d).Locates :=
  fun _ _ _ => address_ne (by decide) _ _

theorem Kind.locates (ts : Tools σ) (k : Kind.Engine) : (Kind.backend ts k).Locates :=
  fun _ _ _ => address_ne (by decide) _ _

theorem internalEndpoint_eq_empty_iff (hb : b.Locates) (scope : Scope) (runnable : String)
    (ports : Ports) (p : String) :
    internalEndpoint b scope runnable ports p = "" ↔ p ∉ ports.keys := by
  unfold internalEndpoint
  rw [Table.mem_keys_iff]
  cases hp : ports.get? p with
  | none => simp
  | some n => simpa using hb scope runnable n

namespace Runnable

structure Served (r : Runnable κ) : Prop where
  held : r.workload.isSome = r.lifecycle.isRunning
  resolved : ∀ w, r.workload = some w → w.ports.keys = r.ports.keys

theorem endpoint_of_undeclared (hp : p ∉ r.ports.keys) : r.endpoint p = "" := by
  rw [← Table.contains_eq_true_iff] at hp
  simp [endpoint, hp]

theorem Served.endpoint_of_stopped (h : r.Served) (hp : p ∈ r.ports.keys)
    (hrun : r.lifecycle.isRunning = false) : r.endpoint p = stoppedAddress := by
  have hw : r.workload = none := by
    rw [← Option.isSome_eq_false_iff.trans Option.isNone_iff_eq_none, h.held, hrun]
  rw [← Table.contains_eq_true_iff] at hp
  simp [endpoint, hp, hw]

theorem Served.endpoint_of_running (h : r.Served) (hp : p ∈ r.ports.keys)
    (hrun : r.lifecycle.isRunning = true) :
    ∃ w n, r.workload = some w ∧ r.hostPorts = w.ports ∧ w.ports.get? p = some n ∧
      r.endpoint p = w.address ++ ":" ++ Decimal.text n := by
  obtain ⟨w, hw⟩ : ∃ w, r.workload = some w := Option.isSome_iff_exists.mp (h.held.trans hrun)
  obtain ⟨n, hn⟩ : ∃ n, w.ports.get? p = some n := by
    rw [← Table.mem_keys_iff, h.resolved w hw]
    exact hp
  rw [← Table.contains_eq_true_iff] at hp
  exact ⟨w, n, hw, by simp [hostPorts, hw, hrun], hn, by simp [endpoint, hp, hw, hrun, hn]⟩

theorem Served.keys_hostPorts (h : r.Served) :
    r.hostPorts.keys = if r.lifecycle.isRunning then r.ports.keys else [] := by
  unfold hostPorts
  cases hw : r.workload with
  | none => simp [← h.held, hw, Table.keys, Table.empty]
  | some w => simp [← h.held, hw, h.resolved w hw]

theorem Served.endpoint_eq_empty_iff (h : r.Served) (p : String) :
    r.endpoint p = "" ↔ p ∉ r.ports.keys := by
  refine ⟨fun heq hp => ?_, endpoint_of_undeclared⟩
  cases hrun : r.lifecycle.isRunning with
  | false =>
    rw [h.endpoint_of_stopped hp hrun] at heq
    exact absurd heq (by decide)
  | true =>
    obtain ⟨w, n, -, -, -, haddress⟩ := h.endpoint_of_running hp hrun
    exact address_ne (by decide) w.address (Decimal.text n) (haddress.symm.trans heq)

theorem Served.endpoint_eq_stopped_iff (h : r.Served) (p : String) :
    r.endpoint p = stoppedAddress ↔ p ∈ r.ports.keys ∧ r.lifecycle.isRunning = false := by
  refine ⟨fun heq => ?_, fun ⟨hp, hrun⟩ => h.endpoint_of_stopped hp hrun⟩
  have hp : p ∈ r.ports.keys := by
    by_contra hp
    rw [endpoint_of_undeclared hp] at heq
    exact absurd heq (by decide)
  refine ⟨hp, ?_⟩
  cases hrun : r.lifecycle.isRunning with
  | false => rfl
  | true =>
    obtain ⟨w, n, -, -, -, haddress⟩ := h.endpoint_of_running hp hrun
    exact absurd (haddress.symm.trans heq) (address_ne (by decide) w.address (Decimal.text n))

end Runnable

def Runnable.Supplied (b : Backend σ κ) (scope : Scope) (r : Runnable κ) : Prop :=
  ∀ w, r.workload = some w →
    ∃ world, (b.launch ⟨scope, r.name, r.ports, r.options⟩ world).1.result = .ok w

namespace Environment

def Supplied (b : Backend σ κ) (e : Environment σ κ) : Prop :=
  ∀ r ∈ e.runnables, r.Supplied b e.scope

theorem markReady_supplied {scope : Scope} (h : r.Supplied b scope) :
    (markReady r).Supplied b scope := by
  unfold markReady
  split <;> exact h

theorem enduring_supplied (b : Backend σ κ) : Enduring b (Supplied (σ := σ) b) where
  kept hk h := by
    rw [hk.rest]
    exact h
  struck {i e _} hs h := by
    have hu : Supplied b (e.update i markStopped) := forall_update h fun _ _ _ _ hw => nomatch hw
    rw [hs.rest]
    exact hu
  ready i h := forall_update h fun _ _ => markReady_supplied
  initialised f o h := by
    obtain ⟨rs, heq, hrs⟩ := initialise_after f o _
    rw [heq]
    intro r hr w hw
    rcases List.mem_append.mp hr with hr | hr
    · exact h r hr w hw
    · rw [(hrs r hr).1] at hw
      cases hw
  aside _ _ _ h := h
  registry _ _ _ _ _ h := h
  taken {e i r w} world hi hl h := by
    refine forall_update h fun r' hi' _ w' hw' => ?_
    cases hi.symm.trans hi'
    cases hw'
    exact ⟨world, hl⟩

variable {net : Network σ}

theorem Reachable.supplied (hr : e.Reachable b net) : Supplied b e :=
  hr.enduring (enduring_supplied b) fun _ _ _ => by simp [Supplied, initial]

theorem Reachable.served (hb : b.Resolves) (hr : e.Reachable b net) :
    ∀ r ∈ e.runnables, r.Served := by
  intro r hm
  refine ⟨hr.faithful.held r hm, fun w hw => ?_⟩
  obtain ⟨world, hl⟩ := hr.supplied r hm w hw
  exact hb _ world w hl

theorem Retains.internalEndpoint {e' : Environment σ κ} (h : Retains e e') {i : Nat}
    (hi : e.runnables[i]? = some r) :
    ∃ r', e'.runnables[i]? = some r' ∧ ∀ p,
      internalEndpoint b e'.scope r'.name r'.ports p =
        internalEndpoint b e.scope r.name r.ports p := by
  obtain ⟨lifecycle, workload, hi'⟩ := h.runnables i r hi
  exact ⟨_, hi', fun p => by rw [h.scope]⟩

theorem initialise_eq_ok {f : Future} {o : Options} {i : Nat}
    (h : (initialise f o e).1 = .ok i) :
    ∃ r, ((initialise f o).after e).runnables[i]? = some r ∧ r.name = f.name ∧
      r.ports = f.ports := by
  unfold Act.after
  unfold initialise at h ⊢
  dsimp only at h ⊢
  split at h
  · cases h
  · cases h
    exact ⟨_, List.getElem?_concat_length, rfl, rfl⟩

end Environment

/-- What is told of a port agrees with what was declared, from the future on until after the
close. -/
structure Addressing (b : Backend σ κ) : Prop where
  resolved : ∀ l world w, (b.launch l world).1.result = .ok w → w.ports.keys = l.ports.keys
  hostPorts : ∀ net e, Reachable b net e → ∀ r ∈ e.runnables,
    r.hostPorts.keys = if r.lifecycle.isRunning then r.ports.keys else []
  undeclared : ∀ net e, Reachable b net e → ∀ r ∈ e.runnables, ∀ p,
    r.endpoint p = "" ↔ p ∉ r.ports.keys
  stopped : ∀ net e, Reachable b net e → ∀ r ∈ e.runnables, ∀ p,
    r.endpoint p = "stopped" ↔ p ∈ r.ports.keys ∧ r.lifecycle.isRunning = false
  running : ∀ net e, Reachable b net e → ∀ r ∈ e.runnables, ∀ p ∈ r.ports.keys,
    r.lifecycle.isRunning = true → ∃ w n, r.workload = some w ∧ r.Supplied b e.scope ∧
      r.hostPorts = w.ports ∧ w.ports.get? p = some n ∧
      r.endpoint p = w.address ++ ":" ++ Decimal.text n
  inside : ∀ scope runnable ports p,
    internalEndpoint b scope runnable ports p = "" ↔ p ∉ ports.keys
  lasting : ∀ net (e : Environment σ κ) (i : Nat) r rs, e.runnables[i]? = some r →
    ∃ r', (run b net rs e).runnables[i]? = some r' ∧ ∀ p,
      internalEndpoint b (run b net rs e).scope r'.name r'.ports p =
        internalEndpoint b e.scope r.name r.ports p
  future : ∀ net (e : Environment σ κ) (f : Future) rs,
    (∀ p, internalEndpoint b (run b net rs e).scope f.name f.ports p =
      internalEndpoint b e.scope f.name f.ports p) ∧
    ∀ o i, (initialise f o (run b net rs e)).1 = .ok i → ∀ later,
      let e' := run b net later ((initialise f o).after (run b net rs e))
      ∃ r, e'.runnables[i]? = some r ∧ ∀ p,
        internalEndpoint b e'.scope r.name r.ports p =
          internalEndpoint b e.scope f.name f.ports p

theorem addressing_of_resolves (hb : b.Resolves) (hl : b.Locates) : Addressing b where
  resolved := hb
  hostPorts _ _ hr r hm := (hr.served hb r hm).keys_hostPorts
  undeclared _ _ hr r hm := (hr.served hb r hm).endpoint_eq_empty_iff
  stopped _ _ hr r hm := (hr.served hb r hm).endpoint_eq_stopped_iff
  running _ _ hr r hm p hp hrun := by
    obtain ⟨w, n, hw, hports, hn, haddress⟩ := (hr.served hb r hm).endpoint_of_running hp hrun
    exact ⟨w, n, hw, hr.supplied r hm, hports, hn, haddress⟩
  inside := internalEndpoint_eq_empty_iff hl
  lasting net e i r rs hi := (run_retains net b e rs).internalEndpoint hi
  future net e f rs := by
    have hs : (run b net rs e).scope = e.scope := (run_retains net b e rs).scope
    refine ⟨fun p => by rw [hs], fun o i hi later => ?_⟩
    obtain ⟨r, hr, hname, hports⟩ := initialise_eq_ok hi
    have hinit := initialise_retains f o (run b net rs e)
    obtain ⟨r', hr', heq⟩ :=
      (run_retains net b _ later).internalEndpoint (b := b) hr
    refine ⟨r', hr', fun p => ?_⟩
    rw [heq p, hinit.scope, hs, hname, hports]

theorem addresses_agree : Addressing StandIn.backend ∧
    (∀ {σ : Type} (ts : Tools σ) (d : Docker.Engine), Addressing (Docker.backend ts d)) ∧
    ∀ {σ : Type} (ts : Tools σ) (k : Kind.Engine), Addressing (Kind.backend ts k) :=
  ⟨addressing_of_resolves StandIn.resolves StandIn.locates,
    fun ts d => addressing_of_resolves (Docker.resolves ts d) (Docker.locates ts d),
    fun ts k => addressing_of_resolves (Kind.resolves ts k) (Kind.locates ts k)⟩

def publishing : StandIn.State :=
  let answer (word text : String) : StandIn.Rule :=
    ⟨"docker", [word], none, 0, text.toList.map (·.val.toUInt8), [], .exited 0, .block⟩
  { StandIn.State.empty with
    tools := ["docker"], rules := [answer "inspect" "true", answer "port" "0.0.0.0:32768"] }

theorem addresses_agree_publishing :
    let b := Docker.backend StandIn.tools
      ⟨⟨"docker", "/bin/docker", []⟩, "127.0.0.1", ⟨.ofMillis 1, .ofMillis 1, 2⟩⟩
    ∃ e : Environment StandIn.State Docker.Container, Reachable b StandIn.network e ∧
      ∃ r, e.runnables[0]? = some r ∧ r.endpoint "http" = "127.0.0.1:32768" ∧
        r.endpoint "ftp" = "" ∧
        ∃ r', (run b StandIn.network [.halt .stop 0, .close] e).runnables[0]? = some r' ∧
          r'.endpoint "http" = "stopped" ∧
          internalEndpoint b (run b StandIn.network [.halt .stop 0, .close] e).scope r'.name
            r'.ports "http" = "bed-a:80" := by
  intro b
  obtain ⟨e, hr, hp⟩ := exists_reachable b StandIn.network (.ofName "bed") "/tmp" "Ab3dE9"
    ⟨.empty, .empty, publishing⟩
    [.initialise ⟨"a", Table.empty.insert "http" 80⟩ (.ofImage "image"), .start 0]
    (fun e => (e.runnables[0]?).any fun r => r.endpoint "http" = "127.0.0.1:32768" ∧
      "ftp" ∉ r.ports.keys ∧
      internalEndpoint b e.scope r.name r.ports "http" = "bed-a:80" ∧
      (run b StandIn.network [.halt .stop 0, .close] e).runnables[0]?.any fun r' =>
        r'.endpoint "http" = "stopped") (by decide +kernel)
  obtain ⟨r, hi, hd⟩ := (Option.any_eq_true _ _).mp hp
  obtain ⟨hrunning, hftp, hinside, hafter⟩ := of_decide_eq_true hd
  obtain ⟨r', hi', hd'⟩ := (Option.any_eq_true _ _).mp hafter
  have hagree := addresses_agree.2.1 StandIn.tools
    ⟨⟨"docker", "/bin/docker", []⟩, "127.0.0.1", ⟨.ofMillis 1, .ofMillis 1, 2⟩⟩
  obtain ⟨r'', hi'', heq⟩ :=
    hagree.lasting StandIn.network e 0 r [.halt .stop 0, .close] hi
  cases hi'.symm.trans hi''
  refine ⟨e, hr, r, hi, hrunning, ?_, r', hi', of_decide_eq_true hd', ?_⟩
  · exact (hagree.undeclared StandIn.network e hr r (List.mem_of_getElem? hi) "ftp").mpr hftp
  · exact (heq "http").trans hinside

end Testbed
