import Testbed.Environment.Basic

/-!
The list of started runnables, in start order, the listeners that are told of each change of it,
and halting a runnable.
-/
namespace Testbed.Environment

variable {σ κ : Type}

def snapshot (e : Environment σ κ) : List (Nat × Option Lifecycle) :=
  e.started.map fun i => (i, e.lifecycle? i)

def notify (e : Environment σ κ) : Environment σ κ :=
  { e with history := e.history ++ e.listeners.map fun l => .notified l e.snapshot }

def register (i : Nat) (e : Environment σ κ) : Environment σ κ :=
  { e with started := e.started ++ [i] }.notify

/-- Takes every runnable of a name off the list; nobody is told if there was none. -/
def unregister (name : String) (e : Environment σ κ) : Environment σ κ :=
  let started := e.started.filter fun i => e.nameOf i ≠ name
  if started.length = e.started.length then e else { e with started }.notify

def addListener (id : String) (e : Environment σ κ) : Environment σ κ :=
  { e with listeners := e.listeners ++ [id] }

def markStopped (r : Runnable κ) : Runnable κ :=
  { r with lifecycle := .stopped, workload := none }

variable (b : Backend σ κ)

/-- Stops or kills a runnable; one that does not run is left alone. If the backend fails, the
runnable goes on. -/
def halt (how : Halt) (i : Nat) : Act (Environment σ κ) Unit := fun e =>
  match e.runnables[i]? with
  | none => (.ok (), e)
  | some r =>
    if !r.lifecycle.isRunning then (.ok (), e)
    else
      match r.workload with
      | none => (.ok (), (e.update i markStopped).unregister r.name)
      | some w =>
        match onWorld (b.halt how w) e with
        | (.error f, e) => (.error f, e.record (.halted how i w false))
        | (.ok (), e) =>
          (.ok (), ((e.record (.halted how i w true)).update i markStopped).unregister r.name)

end Testbed.Environment
