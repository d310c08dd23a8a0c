import Testbed.Docker.Backend
import Testbed.Kind.Backend
import Testbed.Proofs.Uses
import Testbed.StandIn.Tools

/-!
What a launch that fails leaves behind. Both backends that drive tools take back what they have
begun, once and as the last thing they do, and tell the failure that made them do so.
-/
namespace Testbed

variable {σ α γ : Type}

namespace CleansUp

variable {prepared : Except Failure γ} {start undo : Use} {removes : Use → Prop}
  {fails : Failure → List Use → Prop} {e : Failure} {us : List Use}

end CleansUp

namespace Docker.Engine

variable (ts : Tools σ) (d : Engine) (l : Launch)

def prepare : Act (World σ) Unit :=
  World.appendLog l.scope.dir l.name ("$ " ++ d.tool.describe (runArguments l))

def start : Act (World σ) Nat := d.tool.spawn ts (runArguments l) (logFile l.scope.dir l.name)

def launched (process : Nat) : Container :=
  ⟨l.name, containerName l.scope.name l.name, process⟩

def bringUp (c : Container) : Act (World σ) Ports := do
  d.awaitRunning ts c
  d.hostPorts ts c.name l.ports

section Steps

variable {ts d l} {w w₁ w₂ w₃ : World σ} {e : Failure} {p : Nat} {ports : Ports}

theorem launch_unprepared (hp : d.prepare l w = (.error e, w₁)) :
    d.launch ts l w = (.error e, w₁) := by
  rw [prepare] at hp
  rw [launch, Act.bind_error hp]

theorem launch_unstarted (hp : d.prepare l w = (.ok (), w₁))
    (hs : d.start ts l w₁ = (.error e, w₂)) : d.launch ts l w = (.error e, w₂) := by
  rw [prepare] at hp
  rw [start] at hs
  rw [launch, Act.bind_ok hp, Act.bind_error hs]

theorem launch_failed (hp : d.prepare l w = (.ok (), w₁))
    (hs : d.start ts l w₁ = (.ok p, w₂))
    (hb : d.bringUp ts l (launched l p) w₂ = (.error e, w₃)) :
    d.launch ts l w = (.error e, d.removeContainer ts (launched l p) w₃) := by
  rw [prepare] at hp
  rw [start] at hs
  have ha : (d.bringUp ts l (launched l p)).attempt w₂ = (.ok (.error e), w₃) := by
    rw [Act.attempt, hb]
  rw [bringUp] at ha
  rw [launch, Act.bind_ok hp, Act.bind_ok hs]
  exact Act.bind_ok ha

theorem launch_done (hp : d.prepare l w = (.ok (), w₁))
    (hs : d.start ts l w₁ = (.ok p, w₂))
    (hb : d.bringUp ts l (launched l p) w₂ = (.ok ports, w₃)) :
    d.launch ts l w = (.ok ⟨launched l p, d.hostAddress, ports⟩, w₃) := by
  rw [prepare] at hp
  rw [start] at hs
  have ha : (d.bringUp ts l (launched l p)).attempt w₂ = (.ok (.ok ports), w₃) := by
    rw [Act.attempt, hb]
  rw [bringUp] at ha
  rw [launch, Act.bind_ok hp, Act.bind_ok hs]
  exact Act.bind_ok ha

end Steps

section Uses

variable {q : Use → Prop} {c : Container}

theorem isRunning_uses {container : String}
    (hinspect : q (.call (d.tool.invocation (inspectArguments container))))
    (w : World (σ × List Use)) : UsesOnly q w (d.isRunning ts.recorded container w).2 :=
  UsesOnly.bind (fun w => .of_concat (Tool.uses_output ts d.tool _ w) hinspect)
    (fun _ _ => .of_eq rfl) w

theorem awaitRound_uses (hinspect : q (.call (d.tool.invocation (inspectArguments c.name))))
    (last : Failure) (w : World (σ × List Use)) :
    UsesOnly q w (d.awaitRound ts.recorded c last w).2 := by
  have hpoll : UsesOnly q w (ts.recorded.poll c.process w).2 := .of_eq rfl
  unfold awaitRound
  rcases hp : ts.recorded.poll c.process w with ⟨_ | ending, w'⟩
  · have hrun := isRunning_uses ts d hinspect w'
    rw [hp] at hpoll
    dsimp only
    rcases hr : d.isRunning ts.recorded c.name w' with ⟨_ | _ | _, w''⟩ <;> rw [hr] at hrun <;>
      exact hpoll.trans hrun
  · rwa [hp] at hpoll

theorem awaitRunning_uses (hinspect : q (.call (d.tool.invocation (inspectArguments c.name))))
    (w : World (σ × List Use)) : UsesOnly q w (d.awaitRunning ts.recorded c w).2 := by
  have hpoll := UsesOnly.pollFrom (awaitRound_uses ts d hinspect) (d.policy.attempts - 1)
    (.probe .notInspected) w
  rw [← poll] at hpoll
  unfold awaitRunning
  rcases hr : poll d.policy (d.awaitRound ts.recorded c) (.probe .notInspected) w with
    ⟨_ | _, w'⟩ <;>
    rwa [hr] at hpoll

theorem bringUp_uses (hinspect : q (.call (d.tool.invocation (inspectArguments c.name))))
    (hport : ∀ port, q (.call (d.tool.invocation (portArguments c.name port))))
    (w : World (σ × List Use)) : UsesOnly q w (d.bringUp ts.recorded l c w).2 :=
  UsesOnly.bind (awaitRunning_uses ts d hinspect) (fun _ => UsesOnly.mapAct (fun _ port =>
    UsesOnly.bind (fun w => .of_concat (Tool.uses_output ts d.tool _ w) (hport port))
      fun _ _ => .of_eq rfl) l.ports) w

end Uses

theorem uses_removeContainer (c : Container) (w : World (σ × List Use)) :
    (d.removeContainer ts.recorded c w).uses =
      w.uses ++ [.call (d.tool.invocation (removeArguments c.name))] :=
  Tool.uses_runBestEffort ts d.tool (removeArguments c.name) w

end Docker.Engine

namespace Kind.Engine

variable (ts : Tools σ) (k : Engine) (l : Launch)

def prepare : Act (World σ) String := do
  match ← Act.asks fun w => w.clusters.get? l.scope.name with
  | none => Act.fail (.environmentClosed l.scope.name)
  | some address => do
    let file := manifestFile l.scope l.name
    let manifest ← Act.ofExcept (Manifest.ofLaunch l)
    World.writeFile file manifest.document
    World.appendLog l.scope.dir l.name
      ("$ " ++ (k.kubectlFor l.scope).describe (applyArguments file))
    return address

def bringUp : Act (World σ) Ports :=
  k.deploy ts (k.kubectlFor l.scope) l (manifestFile l.scope l.name)

def conclude (address : String) : Act (World σ) (Workload Deployed) := do
  let kubectl := k.kubectlFor l.scope
  let file := manifestFile l.scope l.name
  match ← (k.bringUp ts l).attempt with
  | .error e => do
    Act.ofState (kubectl.runBestEffort ts (haltArguments file .kill))
    Act.fail e
  | .ok ports => do
    let follower ←
      (kubectl.spawn ts (logArguments l.name) (logFile l.scope.dir l.name)).attempt
    return ⟨⟨l.name, kubectl, file, follower.toOption⟩, address, ports⟩

theorem launch_eq : k.launch ts l = k.prepare l >>= k.conclude ts l := by
  unfold launch prepare
  rw [Act.bind_assoc]
  refine congrArg (Act.asks _ >>= ·) (funext fun found => ?_)
  cases found with
  | none => rfl
  | some address =>
    rw [Act.bind_assoc]
    refine congrArg (Act.ofExcept _ >>= ·) (funext fun manifest => ?_)
    rw [Act.bind_assoc]
    refine congrArg (World.writeFile _ _ >>= ·) (funext fun _ => ?_)
    rw [Act.bind_assoc]
    refine congrArg (World.appendLog _ _ _ >>= ·) (funext fun _ => ?_)
    rfl

variable {k l} in
theorem conclude_failed {w w' : World σ} {e : Failure} (address : String)
    (hb : k.bringUp ts l w = (.error e, w')) :
    k.conclude ts l address w = (.error e, (k.kubectlFor l.scope).runBestEffort ts
      (haltArguments (manifestFile l.scope l.name) .kill) w') := by
  have ha : (k.bringUp ts l).attempt w = (.ok (.error e), w') := by rw [Act.attempt, hb]
  rw [conclude]
  exact Act.bind_ok ha

variable {k l} in
theorem conclude_done {w w' : World σ} {ports : Ports} (address : String)
    (hb : k.bringUp ts l w = (.ok ports, w')) :
    ∃ deployed, k.conclude ts l address w =
      (.ok ⟨deployed, address, ports⟩, ((k.kubectlFor l.scope).spawn ts (logArguments l.name)
        (logFile l.scope.dir l.name) w').2) := by
  have ha : (k.bringUp ts l).attempt w = (.ok (.ok ports), w') := by rw [Act.attempt, hb]
  rw [conclude]
  exact ⟨_, Act.bind_ok ha⟩

variable (kubectl : Tool)

end Kind.Engine

def Docker.engine : Docker.Engine :=
  ⟨⟨"docker", "/bin/docker", []⟩, "127.0.0.1", ⟨.ofMillis 1, .ofMillis 1, 2⟩⟩

def bare : Launch := ⟨⟨"bed", "/d", false⟩, "a", .empty, .ofImage "busybox"⟩

end Testbed
