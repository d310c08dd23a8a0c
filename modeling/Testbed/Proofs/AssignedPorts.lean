import Testbed.Docker.Backend
import Testbed.Kind.Backend
import Testbed.Proofs.NodePorts
import Testbed.Proofs.PublishedPorts
import Testbed.StandIn.Tools

/-!
Host ports that are resolved. A port that docker publishes is one that can be connected to, as a
listing with port 0 is refused. The node ports of a service are bounded alike, but port 0, which
stands for a port that is not assigned yet, passes for a node port.
-/
namespace Testbed

variable {σ : Type}

def Assigned (port : Nat) : Prop := 1 ≤ port ∧ port ≤ 65535

instance (port : Nat) : Decidable (Assigned port) := inferInstanceAs (Decidable (_ ∧ _))

theorem Decimal.IsUpTo.unique {max m n : Nat} {s : List Char} (hm : IsUpTo max s m)
    (hn : IsUpTo max s n) : m = n :=
  Option.some.inj ((readUpTo_eq_some.2 hm).symm.trans (readUpTo_eq_some.2 hn))

theorem Table.mapAct_eq_ok {S α β : Type} {f : String → α → Act S β} {t : Table α} {u : Table β}
    {s s' : S} (h : t.mapAct f s = (.ok u, s')) :
    mapEntriesAct f t.entries s = (.ok u.entries, s') := by
  unfold mapAct at h
  split at h
  · cases h
  · next hentries =>
    cases h
    exact hentries

namespace Docker

def ReportsZero (output : String) : Prop :=
  ∃ address numeral, address ++ ':' :: numeral ∈ outputLines output ∧ ':' ∉ numeral ∧
    Decimal.IsUpTo 65535 numeral 0

theorem readPort_assigned {command output : String} {p : Nat}
    (h : readPort command output = .ok p) : Assigned p := by
  obtain ⟨hne, hlines⟩ := readPort_eq_ok.1 h
  obtain ⟨line, hline⟩ := List.exists_mem_of_ne_nil _ hne
  have hp := hlines line hline
  obtain ⟨_, _, -, -, -, hnumeral⟩ := hp.written
  exact ⟨Nat.one_le_iff_ne_zero.2 hp.assigned, hnumeral.bounded⟩

theorem not_reportsZero {command output : String} {p : Nat}
    (h : readPort command output = .ok p) : ¬ReportsZero output := by
  intro ⟨address, numeral, hline, hcolon, hzero⟩
  have hp := (readPort_eq_ok.1 h).2 _ hline
  obtain ⟨address', numeral', heq, hcolon', -, hnumeral⟩ := hp.written
  obtain ⟨-, rfl⟩ := eq_of_last hcolon hcolon' heq
  exact hp.assigned (hnumeral.unique hzero)

namespace Engine

variable (ts : Tools σ) (d : Engine) (container : String)

/-- What docker lists when it is asked for one port after another, up to the first listing that
cannot be read. -/
def listings : List (String × Nat) → World σ → List String
  | [], _ => []
  | (name, port) :: r, w =>
    (d.output ts (portArguments container port) w).1.toOption.toList ++
      match d.hostPort ts container name port w with
      | (.ok _, w) => listings r w
      | (.error _, _) => []

variable {ts d container} {w w' : World σ}

theorem hostPort_eq_ok {name : String} {port p : Nat} :
    d.hostPort ts container name port w = (.ok p, w') ↔
      ∃ output, d.output ts (portArguments container port) w = (.ok output, w') ∧
        readPort (d.tool.describe (portArguments container port)) output = .ok p := by
  rw [hostPort, Act.bind_eq_ok]
  simp only [Act.ofExcept, Prod.mk.injEq]
  constructor
  · rintro ⟨output, w₁, houtput, hread, rfl⟩
    exact ⟨output, houtput, hread⟩
  · rintro ⟨output, houtput, hread⟩
    exact ⟨output, w', houtput, hread, rfl⟩

theorem mapEntriesAct_hostPort {entries out : List (String × Nat)}
    (h : Table.mapEntriesAct (d.hostPort ts container) entries w = (.ok out, w')) :
    (∀ e ∈ out, Assigned e.2) ∧
      ∀ output ∈ d.listings ts container entries w, ¬ReportsZero output := by
  induction entries generalizing w out with
  | nil =>
    cases h
    exact ⟨by simp, by simp [listings]⟩
  | cons e r ih =>
    obtain ⟨name, port⟩ := e
    obtain ⟨p, w₁, hport, h⟩ := Act.bind_eq_ok.1 h
    obtain ⟨rest, w₂, hrest, h⟩ := Act.bind_eq_ok.1 h
    cases h
    obtain ⟨output, houtput, hread⟩ := hostPort_eq_ok.1 hport
    obtain ⟨hassigned, hnonzero⟩ := ih hrest
    have hlistings : d.listings ts container ((name, port) :: r) w =
        output :: d.listings ts container r w₁ := by
      rw [listings, houtput, hport]
      rfl
    rw [hlistings]
    exact ⟨List.forall_mem_cons.2 ⟨readPort_assigned hread, hassigned⟩,
      List.forall_mem_cons.2 ⟨not_reportsZero hread, hnonzero⟩⟩

end Engine

end Docker

namespace Json

variable {f : Fields} {i max n : Nat} {v : Json}

theorem upTo?_le (h : v.upTo? max = some n) : n ≤ max := by
  cases v with
  | number m =>
    obtain ⟨-, hn⟩ := Option.filter_eq_some_iff.1 h
    exact of_decide_eq_true hn
  | _ => cases h

theorem nullable_upTo?_le (h : f.nullable i (upTo? max) = some (some n)) : n ≤ max := by
  unfold Fields.nullable at h
  split at h
  · next v hv =>
    unfold nullable? at h
    split at h
    · cases h
    · obtain ⟨m, hm, hmn⟩ := Option.map_eq_some_iff.1 h
      cases hmn
      exact upTo?_le hm
  · split at h <;> cases h

end Json

namespace Kind

def ReportsZero (command output name : String) : Prop :=
  ∃ exposed, decode servicePorts? command output = .ok exposed ∧
    ∃ p ∈ exposed, p.name = some name ∧ p.nodePort = some 0

variable {command output : String} {exposed : List ServicePort} {declared ports : Ports}

theorem ServicePort.read_le {v : Json} {p : ServicePort} {n : Nat}
    (h : ServicePort.read v = some p) (hn : p.nodePort = some n) : n ≤ 65535 := by
  obtain ⟨f, -, h⟩ := Option.bind_eq_some_iff.1 h
  obtain ⟨name, -, h⟩ := Option.bind_eq_some_iff.1 h
  obtain ⟨port, -, h⟩ := Option.bind_eq_some_iff.1 h
  obtain ⟨node, hnode, h⟩ := Option.bind_eq_some_iff.1 h
  cases h
  obtain rfl : node = some n := hn
  exact Json.nullable_upTo?_le hnode

theorem mapM_forall {α : Type} {read : Json → Option α} {P : α → Prop} {vs : List Json}
    {as : List α} (hread : ∀ v a, read v = some a → P a) (h : vs.mapM read = some as) :
    ∀ a ∈ as, P a := by
  induction vs generalizing as with
  | nil =>
    cases h
    simp
  | cons v vs ih =>
    rw [List.mapM_cons] at h
    obtain ⟨a, ha, h⟩ := Option.bind_eq_some_iff.1 h
    obtain ⟨rest, hrest, h⟩ := Option.bind_eq_some_iff.1 h
    cases h
    exact List.forall_mem_cons.2 ⟨hread v a ha, ih hrest⟩

theorem servicePorts?_le {v : Json} (h : servicePorts? v = some exposed) :
    ∀ p ∈ exposed, ∀ n, p.nodePort = some n → n ≤ 65535 := by
  obtain ⟨f, -, h⟩ := Option.bind_eq_some_iff.1 h
  obtain ⟨spec, -, h⟩ := Option.bind_eq_some_iff.1 h
  obtain ⟨g, -, h⟩ := Option.bind_eq_some_iff.1 h
  unfold Json.Fields.defaulted at h
  split at h
  · obtain ⟨vs, -, h⟩ := Option.bind_eq_some_iff.1 h
    exact mapM_forall (fun _ _ hp _ => ServicePort.read_le hp) h
  · cases h
    simp

theorem readNodePorts_eq_ok : readNodePorts command output declared = .ok ports ↔
    ∃ exposed, decode servicePorts? command output = .ok exposed ∧
      ∃ node, exposed.Perm (entriesFor declared node) ∧
        ports = declared.map fun name _ => node name := by
  rw [readNodePorts, Metrics.bind_eq_ok]
  simp only [orParse_eq_ok, nodePorts_eq_ok]

theorem decode_eq_ok {α : Type} {read : Json → Option α} {a : α} :
    decode read command output = .ok a ↔ ∃ v, Json.read output = some v ∧ read v = some a := by
  rw [← Option.bind_eq_some_iff, decode]
  cases (Json.read output).bind read <;> simp

theorem host_port_of_entry {node : String → Nat} (h : exposed.Perm (entriesFor declared node))
    {name : String} {port : Nat}
    (hport : (name, port) ∈ (declared.map fun name _ => node name).entries) :
    ∃ p ∈ exposed, p.name = some name ∧ p.nodePort = some port := by
  obtain ⟨d, hd, heq⟩ := List.mem_map.1 hport
  cases heq
  exact ⟨_, h.mem_iff.2 (List.mem_map_of_mem hd), rfl, rfl⟩

theorem readNodePorts_le (h : readNodePorts command output declared = .ok ports) :
    ∀ e ∈ ports.entries, e.2 ≤ 65535 := by
  obtain ⟨exposed, hdecode, node, hperm, rfl⟩ := readNodePorts_eq_ok.1 h
  obtain ⟨v, -, hv⟩ := decode_eq_ok.1 hdecode
  intro ⟨name, port⟩ he
  obtain ⟨p, hp, -, hnode⟩ := host_port_of_entry hperm he
  exact servicePorts?_le hv p hp port hnode

theorem readNodePorts_zero_iff (h : readNodePorts command output declared = .ok ports)
    (name : String) : (name, 0) ∈ ports.entries ↔ ReportsZero command output name := by
  obtain ⟨exposed, hdecode, node, hperm, rfl⟩ := readNodePorts_eq_ok.1 h
  constructor
  · intro hzero
    exact ⟨exposed, hdecode, host_port_of_entry hperm hzero⟩
  · intro ⟨exposed', hdecode', p, hp, hname, hzero⟩
    obtain rfl : exposed = exposed' := Except.ok.inj (hdecode.symm.trans hdecode')
    obtain ⟨d, hd, rfl⟩ := List.mem_map.1 (hperm.mem_iff.1 hp)
    refine List.mem_map.2 ⟨d, hd, ?_⟩
    exact Prod.ext (Option.some.inj hname) (Option.some.inj hzero)

theorem readNodePorts_assigned_iff (h : readNodePorts command output declared = .ok ports) :
    (∀ e ∈ ports.entries, Assigned e.2) ↔
      ∀ name ∈ declared.keys, ¬ReportsZero command output name := by
  have hzero := readNodePorts_zero_iff h
  have hkeys : ports.keys = declared.keys := by
    obtain ⟨_, -, node, -, rfl⟩ := readNodePorts_eq_ok.1 h
    exact Table.keys_map _ declared
  constructor
  · intro hall name _ hreports
    exact absurd (hall _ ((hzero name).2 hreports)).1 (Nat.not_succ_le_zero 0)
  · rintro hnone ⟨name, port⟩ he
    refine ⟨Nat.one_le_iff_ne_zero.2 ?_, readNodePorts_le h _ he⟩
    rintro rfl
    exact hnone name (hkeys ▸ List.mem_map_of_mem he) ((hzero name).1 he)

namespace Engine

variable {ts : Tools σ} {kubectl : Tool} {runnable : String} {host : Ports} {w w' : World σ}

theorem hostPorts_eq_ok (h : hostPorts ts kubectl runnable declared w = (.ok host, w')) :
    (declared = .empty ∧ host = .empty) ∨
      ∃ output, (kubectl.output ts (serviceArguments runnable) w).1 = .ok output ∧
        readNodePorts (kubectl.describe (serviceArguments runnable)) output declared =
          .ok host := by
  unfold hostPorts at h
  split at h
  · next hempty =>
    cases h
    exact .inl ⟨Table.ext (List.isEmpty_iff.1 hempty), rfl⟩
  · obtain ⟨output, w₁, houtput, hread⟩ := Act.bind_eq_ok.1 h
    exact .inr ⟨output, by rw [houtput], congrArg Prod.fst hread⟩

theorem hostPorts_assigned_iff (h : hostPorts ts kubectl runnable declared w = (.ok host, w')) :
    (∀ e ∈ host.entries, e.2 ≤ 65535) ∧
      ((∀ e ∈ host.entries, Assigned e.2) ↔
        ∀ output, (kubectl.output ts (serviceArguments runnable) w).1 = .ok output →
          ∀ name ∈ declared.keys,
            ¬ReportsZero (kubectl.describe (serviceArguments runnable)) output name) := by
  rcases hostPorts_eq_ok h with ⟨rfl, rfl⟩ | ⟨output, houtput, hread⟩
  · simp [Table.empty, Table.keys]
  · refine ⟨readNodePorts_le hread, (readNodePorts_assigned_iff hread).trans ?_⟩
    constructor
    · intro hnone output' houtput'
      exact Except.ok.inj (houtput.symm.trans houtput') ▸ hnone
    · intro hnone
      exact hnone output houtput

end Engine

end Kind

/-- With docker each resolved port can be connected to, and a listing with port 0 fails the
resolution. In a cluster each resolved port is in range as well, and can be connected to exactly if
the service reports node port 0 for none of the declared ports. -/
theorem hostPorts_assigned (ts : Tools σ) :
    (∀ (d : Docker.Engine) (container : String) (ports : Ports) (w : World σ),
      (∀ host w', d.hostPorts ts container ports w = (.ok host, w') →
        ∀ e ∈ host.entries, Assigned e.2) ∧
      ∀ output ∈ d.listings ts container ports.entries w, Docker.ReportsZero output →
        ∃ e w', d.hostPorts ts container ports w = (.error e, w')) ∧
    ∀ (kubectl : Tool) (runnable : String) (ports : Ports) (w : World σ) (host : Ports)
      (w' : World σ), Kind.Engine.hostPorts ts kubectl runnable ports w = (.ok host, w') →
      let args := Kind.Engine.serviceArguments runnable
      (∀ e ∈ host.entries, e.2 ≤ 65535) ∧
      ((∀ e ∈ host.entries, Assigned e.2) ↔
        ∀ output, (kubectl.output ts args w).1 = .ok output →
          ∀ name ∈ ports.keys, ¬Kind.ReportsZero (kubectl.describe args) output name) := by
  refine ⟨fun d container ports w => ⟨fun host w' h => ?_, fun output houtput hzero => ?_⟩,
    fun kubectl runnable ports w host w' h => Kind.Engine.hostPorts_assigned_iff h⟩
  · exact (Docker.Engine.mapEntriesAct_hostPort (Table.mapAct_eq_ok h)).1
  · rcases h : d.hostPorts ts container ports w with ⟨e | host, w'⟩
    · exact ⟨e, w', rfl⟩
    · have hnone := (Docker.Engine.mapEntriesAct_hostPort (Table.mapAct_eq_ok h)).2
      exact absurd hzero (hnone output houtput)

section Staged

def answering (args : List String) (text : String) : World StandIn.State :=
  let rule (tool : String) : StandIn.Rule :=
    ⟨tool, args, none, 0, text.toList.map (·.val.toUInt8), [], .exited 0, .block⟩
  ⟨.empty, .empty, { StandIn.State.empty with
    tools := ["docker", "kubectl"]
    rules := [rule "docker", rule "kubectl"] }⟩

def web : Ports := .ofList [("http", 80)]

def webService (nodePort : String) : World StandIn.State :=
  answering ["get", "service"] ("\x7b\"spec\":\x7b\"ports\":[\x7b\"name\":\"http\"," ++
    "\"port\":80,\"nodePort\":" ++ nodePort ++ "\x7d]\x7d\x7d")

def dockerEngine : Docker.Engine :=
  ⟨⟨"docker", "/bin/docker", []⟩, "127.0.0.1", ⟨.ofMillis 1, .ofMillis 1, 2⟩⟩

def kubectlTool : Tool := ⟨"kubectl", "/bin/kubectl", []⟩

theorem hostPorts_assigned_web :
    let docker := fun text =>
      dockerEngine.hostPorts StandIn.tools "bed-a" web (answering ["port", "bed-a"] text)
    let kind := Kind.Engine.hostPorts StandIn.tools kubectlTool "a" web (webService "31000")
    (docker "0.0.0.0:49153").1.toOption = some (.ofList [("http", 49153)]) ∧ Assigned 49153 ∧
    (∃ e, (docker "0.0.0.0:0").1 = .error e) ∧
    kind.1.toOption = some (.ofList [("http", 31000)]) ∧ 31000 ≤ 65535 := by
  intro docker kind
  obtain ⟨hdocker, hkind⟩ := hostPorts_assigned StandIn.tools
  have hpublished : (docker "0.0.0.0:49153").1.toOption = some (.ofList [("http", 49153)]) := by
    decide +kernel
  have hservice : kind.1.toOption = some (.ofList [("http", 31000)]) := by decide +kernel
  have hzero : Docker.ReportsZero "0.0.0.0:0" :=
    ⟨"0.0.0.0".toList, ['0'], by decide +kernel, by decide,
      Decimal.readUpTo_eq_some.1 (by decide +kernel)⟩
  refine ⟨hpublished, ?_, ?_, hservice, ?_⟩
  · rcases hr : docker "0.0.0.0:49153" with ⟨e | host, w'⟩ <;> rw [hr] at hpublished
    · cases hpublished
    · cases hpublished
      exact (hdocker dockerEngine "bed-a" web _).1 _ w' hr ("http", 49153) (by decide +kernel)
  · obtain ⟨e, w', hfails⟩ :=
      (hdocker dockerEngine "bed-a" web (answering ["port", "bed-a"] "0.0.0.0:0")).2 "0.0.0.0:0"
        (by decide +kernel) hzero
    exact ⟨e, congrArg Prod.fst hfails⟩
  · rcases hr : kind with ⟨e | host, w'⟩ <;> rw [hr] at hservice
    · cases hservice
    · cases hservice
      exact (hkind kubectlTool "a" web _ _ w' hr).1 ("http", 31000) (by decide +kernel)

theorem node_port_zero_resolved :
    (Kind.Engine.hostPorts StandIn.tools kubectlTool "a" web (webService "0")).1.toOption =
      some (.ofList [("http", 0)]) ∧
    ¬∀ (ports : Ports) (w w' : World StandIn.State) (host : Ports),
      Kind.Engine.hostPorts StandIn.tools kubectlTool "a" ports w = (.ok host, w') →
        ∀ e ∈ host.entries, Assigned e.2 := by
  have hservice : (Kind.Engine.hostPorts StandIn.tools kubectlTool "a" web
      (webService "0")).1.toOption = some (.ofList [("http", 0)]) := by decide +kernel
  refine ⟨hservice, fun hall => ?_⟩
  rcases hr : Kind.Engine.hostPorts StandIn.tools kubectlTool "a" web (webService "0") with
    ⟨e | host, w'⟩ <;> rw [hr] at hservice
  · cases hservice
  · cases hservice
    exact absurd (hall web _ w' _ hr ("http", 0) (by decide +kernel)) (by decide)

end Staged

end Testbed
