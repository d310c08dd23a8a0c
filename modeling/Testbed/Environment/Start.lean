import Testbed.Environment.Closing

/-!
Starting runnables, and runs: what becomes of an environment when one request is made of it after
another.
-/
namespace Testbed

variable {σ κ : Type}

namespace Environment

def markRunning (w : Workload κ) (r : Runnable κ) : Runnable κ :=
  { r with lifecycle := .running, workload := some w }

variable (b : Backend σ κ) (net : Network σ)

def launching (i : Nat) (r : Runnable κ) (e : Environment σ κ) :
    Launching κ × Environment σ κ :=
  let (launching, world) := b.launch ⟨e.scope, r.name, r.ports, r.options⟩ e.world
  (launching, { e with world }.record (.launched i launching.result.toOption))

def launch (i : Nat) (r : Runnable κ) (e : Environment σ κ) :
    Except Failure (Workload κ) × Environment σ κ :=
  let (launching, e) := launching b i r e
  (launching.result, if launching.closing then close b net e else e)

/-- A workload that comes up in a closed environment is killed at once. A runnable that is not
of this environment is not started. -/
def start (i : Nat) : Act (Environment σ κ) Unit := fun e =>
  match e.closed, e.runnables[i]? with
  | true, _ | _, none => (.error (.environmentClosed e.name), e)
  | false, some r =>
    if r.lifecycle.isRunning then (.error (.alreadyRunning r.name), e)
    else
      match launch b net i r e with
      | (.error f, e) => (.error f, e)
      | (.ok w, e) =>
        let e := e.update i (markRunning w)
        if e.closed then (.error (.environmentClosed e.name), (halt b .kill i).after e)
        else (.ok (), e.register i)

def startAndWaitReady (is : List Nat) : Act (Environment σ κ) Unit := do
  forEach (start b net) is
  forEach (waitReady b net) is

end Environment

section Runs

variable (b : Backend σ κ) (net : Network σ)

/-- What a request does. An environment that goes out of use is closed. -/
def Request.apply : Request → Environment σ κ → Environment σ κ
  | .start i, e => (Environment.start b net i).after e
  | .addCloser id requests, e => e.addCloser b net id requests
  | .close, e | .drop, e => e.close b net
  | r, e => r.applyClosed b net e

def Environment.run (requests : List Request) (e : Environment σ κ) : Environment σ κ :=
  requests.foldl (fun e r => r.apply b net e) e

end Runs

end Testbed
