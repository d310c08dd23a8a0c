import Testbed.Backend
import Testbed.Config
import Testbed.Kind.Document
import Testbed.Kind.Output
import Testbed.Policy
import Testbed.Tool

/-!
Running workloads in a cluster of one node. Each is a deployment that is applied from a
manifest file in the shared directory, and reached through node ports.
-/
namespace Testbed.Kind

variable {σ : Type}

structure Engine where
  kind : Tool
  kubectl : Tool
  nodeImage : Option String
  policy : Policy

structure Deployed where
  runnable : String
  kubectl : Tool
  manifest : String
  follower : Option Nat

def kubeconfig (scope : Scope) : String := Path.join scope.dir "kubeconfig"

def configFile (scope : Scope) : String := Path.join scope.dir "kind-config.yaml"

def manifestFile (scope : Scope) (runnable : String) : String :=
  Path.join scope.dir (runnable ++ ".manifest.yaml")

namespace Engine

variable (ts : Tools σ) (k : Engine)

def locate (c : Config) : Act (World σ) Engine := do
  return ⟨← Tool.locate ts "kind", ← Tool.locate ts "kubectl", c.nodeImage, c.readyBackoff⟩

def kubectlFor (scope : Scope) : Tool :=
  k.kubectl.withBase ["--kubeconfig", kubeconfig scope]

def deleteArguments (scope : Scope) : List String :=
  ["delete", "cluster", "--name", scope.name, "--kubeconfig", kubeconfig scope]

def deleteCluster (scope : Scope) (w : World σ) : World σ :=
  k.kind.runBestEffort ts (deleteArguments scope) w

def clusterExists (name : String) : Act (World σ) Bool := do
  let clusters ← k.kind.output ts ["get", "clusters"]
  return (Text.lines clusters.toList).any fun l => Text.trim l = name.toList

def createArguments (scope : Scope) : List String :=
  ["create", "cluster", "--name", scope.name, "--config", configFile scope, "--kubeconfig",
    kubeconfig scope, "--wait", "120s"] ++
  match k.nodeImage with
  | none => []
  | some image => ["--image", image]

def addressArguments : List String :=
  ["get", "nodes", "-o", "jsonpath=\x7b.items[0].status.addresses\x7d"]

def nodeAddress (kubectl : Tool) : Act (World σ) String := do
  let output ← kubectl.output ts addressArguments
  Act.ofExcept (readAddress (kubectl.describe addressArguments) output)

def rememberCluster (scope : Scope) (address : String) (w : World σ) : World σ :=
  { w with clusters := w.clusters.insert scope.name address }

/-- Deletes a cluster of that name, then creates one. A cluster whose address cannot be told is
deleted again. -/
def createScope (scope : Scope) : Act (World σ) Unit := do
  if ← k.clusterExists ts scope.name then Act.ofState (k.deleteCluster ts scope)
  World.writeFile (configFile scope) (clusterDocument scope.dir)
  k.kind.run ts (k.createArguments scope)
  match ← (nodeAddress ts (k.kubectlFor scope)).attempt with
  | .ok address => Act.ofState (rememberCluster scope address)
  | .error e => do
    Act.ofState (k.deleteCluster ts scope)
    Act.fail e

def destroyScope (scope : Scope) (w : World σ) : World σ :=
  k.deleteCluster ts scope { w with clusters := w.clusters.erase scope.name }

def podsArguments (runnable : String) : List String :=
  ["get", "pods", "-l", "app=" ++ runnable, "-o", "json"]

def podReady (kubectl : Tool) (runnable : String) : Act (World σ) Bool := do
  let args := podsArguments runnable
  let output ← kubectl.output ts args
  Act.ofExcept (readReady (kubectl.describe args) output)

def awaitRound (kubectl : Tool) (runnable : String) (_ : Failure) (w : World σ) :
    (Unit ⊕ Failure) × World σ :=
  match podReady ts kubectl runnable w with
  | (.ok true, w) => (.inl (), w)
  | (.ok false, w) => (.inr (.probe .podNotReady), w)
  | (.error e, w) => (.inr e, w)

def awaitReady (kubectl : Tool) (runnable : String) : Act (World σ) Unit := fun w =>
  match poll k.policy (awaitRound ts kubectl runnable) (.probe .notListed) w with
  | (.inl (), w) => (.ok (), w)
  | (.inr last, w) => (.error (.notReady runnable k.policy.attempts last), w)

def serviceArguments (runnable : String) : List String :=
  ["get", "service", runnable, "-o", "json"]

def hostPorts (kubectl : Tool) (runnable : String) (ports : Ports) : Act (World σ) Ports := do
  if ports.isEmpty then return .empty
  let args := serviceArguments runnable
  let output ← kubectl.output ts args
  Act.ofExcept (readNodePorts (kubectl.describe args) output ports)

def applyArguments (manifest : String) : List String := ["apply", "-f", manifest]

def haltArguments (manifest : String) : Halt → List String
  | .stop =>
    ["delete", "-f", manifest, "--grace-period=30", "--ignore-not-found=true", "--wait=true"]
  | .kill =>
    ["delete", "-f", manifest, "--grace-period=0", "--ignore-not-found=true", "--wait=true",
      "--force"]

def logArguments (runnable : String) : List String :=
  ["logs", "-f", "deployment/" ++ runnable, "--all-containers=true"]

def deploy (kubectl : Tool) (l : Launch) (manifest : String) : Act (World σ) Ports := do
  kubectl.run ts (applyArguments manifest)
  k.awaitReady ts kubectl l.name
  hostPorts ts kubectl l.name l.ports

/-- Without a cluster nothing is launched. A deployment that does not come up is deleted
again; one whose logs cannot be followed goes on without. -/
def launch (l : Launch) : Act (World σ) (Workload Deployed) := do
  match ← Act.asks fun w => w.clusters.get? l.scope.name with
  | none => Act.fail (.environmentClosed l.scope.name)
  | some address => do
    let kubectl := k.kubectlFor l.scope
    let file := manifestFile l.scope l.name
    let manifest ← Act.ofExcept (Manifest.ofLaunch l)
    World.writeFile file manifest.document
    World.appendLog l.scope.dir l.name ("$ " ++ kubectl.describe (applyArguments file))
    match ← (k.deploy ts kubectl l file).attempt with
    | .error e => do
      Act.ofState (kubectl.runBestEffort ts (haltArguments file .kill))
      Act.fail e
    | .ok ports => do
      let log := logFile l.scope.dir l.name
      let follower ← (kubectl.spawn ts (logArguments l.name) log).attempt
      return ⟨⟨l.name, kubectl, file, follower.toOption⟩, address, ports⟩

def stopFollowing (d : Deployed) (w : World σ) : World σ :=
  match d.follower with
  | none => w
  | some process => ts.reap process w

def halt (how : Halt) (d : Deployed) : Act (World σ) Unit := do
  d.kubectl.run ts (haltArguments d.manifest how)
  Act.ofState (stopFollowing ts d)

def execArguments (runnable : String) (command : Command) : List String :=
  ["exec", "deployment/" ++ runnable, "--"] ++ command.argv

def exec (d : Deployed) (command : Command) (sinks : ExecSinks) (w : World σ) :
    Executed × World σ :=
  if command.isEmpty then (.failed (.config (.emptyCommand d.runnable)), w)
  else d.kubectl.exec ts (execArguments d.runnable command) sinks w

end Engine

def backend (ts : Tools σ) (k : Engine) : Backend σ Deployed where
  title := "kind"
  createScope := k.createScope ts
  destroyScope := k.destroyScope ts
  internalDir _ runnable := Path.join podShared runnable
  internalAddress _ runnable port := runnable ++ ":" ++ Decimal.text port
  launch l w :=
    let (result, w) := k.launch ts l w
    (⟨result, false⟩, w)
  halt how workload := Engine.halt ts how workload.handle
  exec workload command sinks w :=
    let (executed, w) := Engine.exec ts workload.handle command sinks w
    (⟨executed, []⟩, w)

end Testbed.Kind
