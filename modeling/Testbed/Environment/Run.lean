import Testbed.Environment.Registry
import Testbed.Name

/-!
From a reserved name to a runnable: reserving, declaring ports, fixing options; and running
commands in its workload.
-/
namespace Testbed

variable {σ κ : Type}

namespace Environment

def reserve (name : String) : Act (Environment σ κ) Reservation := fun e =>
  match checkName "runnable" name with
  | .error f => (.error f, e)
  | .ok () =>
    if e.closed then (.error (.environmentClosed e.name), e)
    else if e.reserved.contains name then (.error (.nameConflict name e.name), e)
    else (.ok ⟨name, .empty⟩, { e with reserved := name :: e.reserved })

def checkPorts (runnable : String) : List (String × Nat) → Except Failure Unit
  | [] => .ok ()
  | (name, port) :: r =>
    if name = "" ∨ port = 0 then .error (.config (.badPort runnable name port))
    else checkPorts runnable r

/-- Fixes the ports and makes the working directory. The environment may be closed. -/
def settle (r : Reservation) : Act (Environment σ κ) Future := do
  Act.ofExcept (checkPorts r.name r.ports.entries)
  let dir ← Act.asks fun e => e.scope.workDir r.name
  onWorld (World.makeDirectories dir)
  return ⟨r.name, r.ports⟩

def checkOptions (f : Future) (o : Options) (policy : Policy) : Except Failure Unit := do
  if (Text.trim o.image.toList).isEmpty then throw (.config (.noImage f.name))
  match o.readiness.bind (·.port) with
  | some port => if !f.ports.contains port then throw (.undeclaredPort f.name port)
  | none => pure ()
  policy.check

/-- Fixes the options, and with them the policy of waits for readiness: their own, or else the
environment's. Returns the number of the new runnable. -/
def initialise (f : Future) (o : Options) : Act (Environment σ κ) Nat := fun e =>
  let policy := o.backoff.getD e.config.readyBackoff
  match checkOptions f o policy with
  | .error g => (.error g, e)
  | .ok () =>
    let r : Runnable κ := ⟨f.name, f.ports, o, policy, .initialized, none, .empty⟩
    (.ok e.runnables.length, { e with runnables := e.runnables ++ [r] })

variable (b : Backend σ κ)

def haltAll (i : Nat) (requests : List Halt) (e : Environment σ κ) : Environment σ κ :=
  requests.foldl (fun e how => (halt b how i).after e) e

def demandSuccess (name : String) (o : ExecOutput) : Except Failure ExecOutput :=
  if o.succeeded then .ok o else .error (.execFailed name o.exitCode o.stderr)

/-- Runs a command in a running workload; what the command asks for its own runnable is done
before the outcome is looked at. -/
def exec (i : Nat) (c : Command) (sinks : ExecSinks) (e : Environment σ κ) :
    Executed × Environment σ κ :=
  match e.running? i with
  | none => (.failed (.notRunning (e.nameOf i)), e)
  | some (r, w) =>
    let (done, world) := b.exec w c sinks e.world
    let e := haltAll b i done.halts ({ e with world }.record (.executed i w c))
    let result := done.executed.result.bind (demandSuccess r.name)
    ({ done.executed with result }, e)

end Environment

end Testbed
