import Testbed.Backend
import Testbed.Config
import Testbed.Docker.Arguments
import Testbed.Docker.Output
import Testbed.Policy
import Testbed.Tool

/-!
Running workloads as docker containers. Each is a `docker run` that stays attached, so that
its output can be logged; its host ports are known once the container runs.
-/
namespace Testbed.Docker

variable {σ : Type}

structure Engine where
  tool : Tool
  hostAddress : String
  policy : Policy

structure Container where
  runnable : String
  name : String
  process : Nat

namespace Engine

variable (ts : Tools σ) (d : Engine)

def locate (c : Config) : Act (World σ) Engine := do
  return ⟨← Tool.locate ts "docker", c.dockerHost, c.readyBackoff⟩

def output (args : List String) : Act (World σ) String := d.tool.output ts args

def runBestEffort (args : List String) : World σ → World σ := d.tool.runBestEffort ts args

def listArguments (scope : Scope) : List String :=
  ["ps", "-a", "--quiet", "--filter", "label=" ++ scopeLabel scope.name]

def removeArguments (container : String) : List String := ["rm", "--force", container]

/-- Removes the containers that carry the scope's label, as far as that can be done. -/
def removeLeftovers (scope : Scope) (w : World σ) : World σ :=
  match d.output ts (listArguments scope) w with
  | (.error _, w) => w
  | (.ok ids, w) =>
    ((outputLines ids).map String.ofList).foldl
      (fun w id => d.runBestEffort ts (removeArguments id) w) w

def createArguments (scope : Scope) : List String :=
  ["network", "create", "-d", "bridge", "--label", scopeLabel scope.name, scope.name]

def createScope (scope : Scope) : Act (World σ) Unit := do
  Act.ofState (d.removeLeftovers ts scope)
  match ← (d.output ts ["network", "inspect", scope.name]).attempt with
  | .ok _ => Act.ofState (d.runBestEffort ts ["network", "rm", scope.name])
  | .error _ => pure ()
  d.tool.run ts (createArguments scope)

def destroyScope (scope : Scope) (w : World σ) : World σ :=
  d.runBestEffort ts ["network", "rm", scope.name] (d.removeLeftovers ts scope w)

def inspectArguments (container : String) : List String :=
  ["inspect", "-f", "\x7b\x7bjson .State.Running\x7d\x7d", container]

def isRunning (container : String) : Act (World σ) Bool := do
  let args := inspectArguments container
  let output ← d.output ts args
  Act.ofExcept (readRunning (d.tool.describe args) output)

/-- One look at a container that was just started. It settles the matter if the container runs,
or if its process has ended. -/
def awaitRound (c : Container) (_ : Failure) (w : World σ) :
    (Except Failure Unit ⊕ Failure) × World σ :=
  match ts.poll c.process w with
  | (some ending, w) =>
    (.inl (.error (.tool ("docker run " ++ c.name) ending.text
      "container exited before it was seen running; see its log file")), w)
  | (none, w) =>
    match d.isRunning ts c.name w with
    | (.ok true, w) => (.inl (.ok ()), w)
    | (.ok false, w) => (.inr (.probe .containerNotRunning), w)
    | (.error e, w) => (.inr e, w)

def awaitRunning (c : Container) : Act (World σ) Unit := fun w =>
  match poll d.policy (d.awaitRound ts c) (.probe .notInspected) w with
  | (.inl r, w) => (r, w)
  | (.inr last, w) => (.error (.notReady c.runnable d.policy.attempts last), w)

def portArguments (container : String) (port : Nat) : List String :=
  ["port", container, Decimal.text port ++ "/tcp"]

def hostPort (container : String) (_ : String) (port : Nat) : Act (World σ) Nat := do
  let args := portArguments container port
  let output ← d.output ts args
  Act.ofExcept (readPort (d.tool.describe args) output)

def hostPorts (container : String) (ports : Ports) : Act (World σ) Ports :=
  ports.mapAct (d.hostPort ts container)

def removeContainer (c : Container) (w : World σ) : World σ :=
  ts.reap c.process (d.runBestEffort ts (removeArguments c.name) w)

/-- A container that does not come up, or whose ports cannot be told, is removed again. -/
def launch (l : Launch) : Act (World σ) (Workload Container) := do
  let args := runArguments l
  World.appendLog l.scope.dir l.name ("$ " ++ d.tool.describe args)
  let process ← d.tool.spawn ts args (logFile l.scope.dir l.name)
  let c : Container := ⟨l.name, containerName l.scope.name l.name, process⟩
  match ← (do d.awaitRunning ts c; d.hostPorts ts c.name l.ports : Act _ _).attempt with
  | .ok ports => return ⟨c, d.hostAddress, ports⟩
  | .error e => do
    Act.ofState (d.removeContainer ts c)
    Act.fail e

def haltArguments (container : String) : Halt → List String
  | .stop => ["stop", "--time=30", container]
  | .kill => ["kill", container]

/-- Halting fails only if the container's process goes on. -/
def halt (how : Halt) (c : Container) : Act (World σ) Unit := fun w =>
  match d.tool.run ts (haltArguments c.name how) w with
  | (.ok (), w) => (.ok (), ts.reap c.process w)
  | (.error e, w) =>
    match ts.poll c.process w with
    | (none, w) => (.error e, w)
    | (some _, w) => (.ok (), ts.reap c.process w)

def exec (c : Container) (command : Command) (sinks : ExecSinks) (w : World σ) :
    Executed × World σ :=
  if command.isEmpty then (.failed (.config (.emptyCommand c.runnable)), w)
  else d.tool.exec ts ("exec" :: c.name :: command.argv) sinks w

end Engine

def backend (ts : Tools σ) (d : Engine) : Backend σ Container where
  title := "docker"
  createScope := d.createScope ts
  destroyScope := d.destroyScope ts
  internalDir scope runnable := scope.workDir runnable
  internalAddress scope runnable port :=
    containerName scope.name runnable ++ ":" ++ Decimal.text port
  launch l w :=
    let (result, w) := d.launch ts l w
    (⟨result, false⟩, w)
  halt how workload := d.halt ts how workload.handle
  exec workload command sinks w :=
    let (executed, w) := d.exec ts workload.handle command sinks w
    (⟨executed, []⟩, w)

end Testbed.Docker
