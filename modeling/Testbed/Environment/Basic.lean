import Testbed.Config
import Testbed.Environment.Request
import Testbed.Tags

/-!
Environments: a scope of a backend, the runnables in it, and who is told of what.

A runnable is known by its number, in the order in which runnables were initialised. What
happened is kept as a history, oldest first.
-/
namespace Testbed

variable {σ κ : Type}

/-- A runnable with fixed options. It holds its workload while it runs. -/
structure Runnable (κ : Type) where
  name : String
  ports : Ports
  options : Options
  policy : Policy
  lifecycle : Lifecycle
  workload : Option (Workload κ)
  tags : Tags

/-- What is to be run at close; it sees the runnables there were when it was added. -/
structure Closer where
  id : String
  seen : Nat
  requests : List Request

/-- What a closer finds: whether the environment is closed, how many runnables are listed as
started, and which of those it sees are running. -/
structure CloserView where
  closed : Bool
  started : Nat
  running : List Nat

/-- What happened. A launch that failed has no workload; a stop, a kill and a command name the
workload they were asked of. -/
inductive Happening (κ : Type) where
  | scopeCreated (ok : Bool)
  | scopeDestroyed
  | launched (runnable : Nat) (workload : Option (Workload κ))
  | halted (how : Halt) (runnable : Nat) (workload : Workload κ) (ok : Bool)
  | executed (runnable : Nat) (workload : Workload κ) (command : Command)
  | notified (listener : String) (started : List (Nat × Option Lifecycle))
  | ranCloser (id : String) (view : CloserView)
  | released (removed : Bool)

structure Environment (σ κ : Type) where
  config : Config
  scope : Scope
  world : World σ
  reserved : List String
  runnables : List (Runnable κ)
  started : List Nat
  listeners : List String
  closers : List Closer
  closed : Bool
  history : List (Happening κ)

namespace Environment

def name (e : Environment σ κ) : String := e.scope.name

def record (h : Happening κ) (e : Environment σ κ) : Environment σ κ :=
  { e with history := e.history ++ [h] }

def onWorld {α : Type} (x : Act (World σ) α) : Act (Environment σ κ) α := fun e =>
  let (r, world) := x e.world
  (r, { e with world })

def update (i : Nat) (f : Runnable κ → Runnable κ) (e : Environment σ κ) : Environment σ κ :=
  { e with runnables := e.runnables.modify i f }

def lifecycle? (i : Nat) (e : Environment σ κ) : Option Lifecycle :=
  e.runnables[i]?.map (·.lifecycle)

def isRunning (i : Nat) (e : Environment σ κ) : Bool := (e.lifecycle? i).any (·.isRunning)

def nameOf (i : Nat) (e : Environment σ κ) : String := (e.runnables[i]?.map (·.name)).getD ""

def running? (i : Nat) (e : Environment σ κ) : Option (Runnable κ × Workload κ) :=
  match e.runnables[i]? with
  | none => none
  | some r => if r.lifecycle.isRunning then r.workload.map fun w => (r, w) else none

end Environment

namespace Runnable

def hostPorts (r : Runnable κ) : Ports :=
  match r.workload with
  | some w => if r.lifecycle.isRunning then w.ports else .empty
  | none => .empty

/-- Stands for the host address of a declared port while the runnable does not run. -/
def stoppedAddress : String := "stopped"

/-- Where a port is reached from the host; empty if it was not declared. -/
def endpoint (r : Runnable κ) (port : String) : String :=
  if !r.ports.contains port then ""
  else
    match r.workload with
    | some w =>
      if r.lifecycle.isRunning then
        match w.ports.get? port with
        | some n => w.address ++ ":" ++ Decimal.text n
        | none => ""
      else stoppedAddress
    | none => stoppedAddress

end Runnable

/-- Where a port is reached inside the scope, whether or not anything runs; empty if it was not
declared. -/
def internalEndpoint (b : Backend σ κ) (scope : Scope) (runnable : String) (ports : Ports)
    (port : String) : String :=
  match ports.get? port with
  | some n => b.internalAddress scope runnable n
  | none => ""

def portsText (p : Ports) : String :=
  "\x7b" ++ ", ".intercalate (p.entries.map fun e =>
    Text.quoted e.1 ++ ": " ++ Decimal.text e.2) ++ "\x7d"

def Environment.text (b : Backend σ κ) (e : Environment σ κ) : String :=
  "Environment \x7b name: " ++ Text.quoted e.name ++ ", backend: " ++ Text.quoted b.title ++
    ", dir: " ++ Text.quoted e.scope.dir ++ ", closed: " ++
    (if e.closed then "true" else "false") ++ " \x7d"

def Runnable.text (environment : String) (r : Runnable κ) : String :=
  "Runnable \x7b name: " ++ Text.quoted r.name ++ ", environment: " ++ Text.quoted environment ++
    ", ports: " ++ portsText r.ports ++ ", state: " ++ r.lifecycle.title ++ ", .. \x7d"

end Testbed
