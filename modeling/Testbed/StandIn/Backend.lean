import Testbed.Backend
import Testbed.StandIn.State

/-!
A backend that launches nothing. Host ports are handed out one after another unless they are
pinned; launches, halts and commands succeed unless they are set to fail.
-/
namespace Testbed.StandIn

def createScope (_ : Scope) : Act (World State) Unit := fun w =>
  if w.rest.staging.createFails then (.error (.config (.other "scripted create failure")), w)
  else (.ok (), w)

def assignPort (runnable port : String) (s : Staging) : Nat × Staging :=
  match s.pinned.lookup (runnable, port) with
  | some n => (n, s)
  | none =>
    (s.nextPort, { s with
      pinned := ((runnable, port), s.nextPort) :: s.pinned
      nextPort := (s.nextPort + 1) % 0x1_0000 })

def assignPorts (l : Launch) : Act (World State) Ports :=
  l.ports.mapAct fun port _ w =>
    let (n, staging) := assignPort l.name port w.rest.staging
    (.ok n, { w with rest := { w.rest with staging } })

def launch (l : Launch) : Act (World State) (Workload String) := do
  if ← Act.asks (·.rest.staging.launchFails.contains l.name) then
    Act.fail (.tool ("fake launch " ++ l.name) "exit status: 125" "launch refused")
  let ports ← assignPorts l
  return ⟨l.name, "127.0.0.1", ports⟩

def halt (name : String) : Act (World State) Unit := fun w =>
  if w.rest.staging.haltFails.contains name then
    (.error (.tool ("fake stop " ++ name) "exit status: 1" "stop refused"), w)
  else (.ok (), w)

def outputOf (c : Command) : ExecOutput :=
  match c.program with
  | "false" => ⟨"", "exit status 1\n", 1⟩
  | "echo" => ⟨" ".intercalate c.args ++ "\n", "", 0⟩
  | _ => ⟨"", "", 0⟩

/-- Sinks get the output one after the other; one that refuses ends the command. -/
def runCommand (c : Command) (sinks : ExecSinks) : Executed :=
  let o := outputOf c
  let refusal : Failure := .io "<exec sink>" Sink.refusal
  let (out, outRefused) := Tool.pour sinks.stdout o.stdout
  if outRefused then ⟨.error refusal, out, ""⟩
  else
    let (err, errRefused) := Tool.pour sinks.stderr o.stderr
    if errRefused then ⟨.error refusal, out, err⟩ else ⟨.ok o, out, err⟩

def nextScripted (name : String) (s : Staging) : Option ExecOutput × Staging :=
  match s.scripts.get? name with
  | some (o :: r) => (some o, { s with scripts := s.scripts.insert name r })
  | _ => (none, s)

def exec (name : String) (c : Command) (sinks : ExecSinks) (w : World State) :
    Executing × World State :=
  let done := runCommand c sinks
  match done.result with
  | .error _ => (⟨done, []⟩, w)
  | .ok _ =>
    let (scripted, staging) := nextScripted name w.rest.staging
    let done := match scripted with
      | some o => { done with result := .ok o }
      | none => done
    let halts := if staging.stopsInExec.contains name then [.stop] else []
    (⟨done, halts⟩, { w with rest := { w.rest with staging } })

def backend : Backend State String where
  title := "fake"
  createScope := createScope
  destroyScope _ w := w
  internalDir scope runnable := scope.workDir runnable
  internalAddress scope runnable port :=
    scope.name ++ "-" ++ runnable ++ ":" ++ Decimal.text port
  launch l w :=
    let (result, w) := launch l w
    (⟨result, result.toBool && w.rest.staging.closesInLaunch.contains l.name⟩, w)
  halt _ workload := halt workload.handle
  exec workload := exec workload.handle

end Testbed.StandIn
