import Testbed.Environment.Run
import Testbed.Text.Search

/-!
Checking whether a workload is ready, and waiting until it is.
-/
namespace Testbed.Environment

variable {σ κ : Type} (b : Backend σ κ) (net : Network σ)

def address (i : Nat) (port : String) (e : Environment σ κ) : Except Failure String :=
  match e.runnables[i]? with
  | none => .error (.notRunning "")
  | some r =>
    let endpoint := r.endpoint port
    if endpoint = "" then .error (.undeclaredPort r.name port)
    else if !r.lifecycle.isRunning then .error (.notRunning r.name)
    else .ok endpoint

def judge (p : HttpProbe) (url : String) : Reply → Except ProbeError Unit
  | .failed cause => .error (.request url cause)
  | .answered status body =>
    if status < p.least ∨ p.most < status then .error (.wrongStatus url status p.least p.most)
    else
      match p.needles.find? fun n => !Text.isWithin n.toList body.toList with
      | some needle => .error (.body url needle)
      | none => .ok ()

def checkHttp (i : Nat) (p : HttpProbe) : Act (Environment σ κ) Unit := fun e =>
  match e.address i p.port with
  | .error f => (.error f, e)
  | .ok address =>
    let url := urlOf p.scheme address p.path
    let (reply, world) := net.get url e.world
    ((judge p url reply).mapError .probe, { e with world })

def checkTcp (i : Nat) (port : String) : Act (Environment σ κ) Unit := fun e =>
  match e.address i port with
  | .error f => (.error f, e)
  | .ok address =>
    let (result, world) := net.dial address e.world
    (result.mapError .probe, { e with world })

def checkCommand (i : Nat) (c : Command) : Act (Environment σ κ) Unit := fun e =>
  let (done, e) := exec b i c .none e
  match done.result with
  | .ok _ => (.ok (), e)
  | .error f => (.error (.commandProbe c.text f), e)

def check (i : Nat) : Probe → Act (Environment σ κ) Unit
  | .http p => checkHttp net i p
  | .tcp port => checkTcp net i port
  | .command c => checkCommand b i c

/-- A runnable that has stopped meanwhile does not become ready. -/
def markReady (r : Runnable κ) : Runnable κ :=
  if r.lifecycle = .running then { r with lifecycle := .ready } else r

/-- One round of a wait: a runnable that does not run ends it, a probe that succeeds too. -/
def readyRound (i : Nat) (p : Probe) (_ : Failure) (e : Environment σ κ) :
    (Except Failure Unit ⊕ Failure) × Environment σ κ :=
  if !e.isRunning i then (.inl (.error (.notRunning (e.nameOf i))), e)
  else
    match check b net i p e with
    | (.ok (), e) => (.inl (.ok ()), e.update i markReady)
    | (.error f, e) => (.inr f, e)

def noAttempt : Failure := .probe (.other "no probe attempt made")

/-- A runnable without a probe is ready as soon as it runs. -/
def waitReady (i : Nat) : Act (Environment σ κ) Unit := fun e =>
  match e.runnables[i]? with
  | none => (.error (.notRunning ""), e)
  | some r =>
    if !r.lifecycle.isRunning then (.error (.notRunning r.name), e)
    else
      match r.options.readiness with
      | none => (.ok (), e.update i markReady)
      | some p =>
        match paced r.policy (readyRound b net i p) noAttempt e with
        | (.settled result, e) => (result, e)
        | (.exhausted last, e) => (.error (.notReady r.name r.policy.attempts last), e)
        | (.undrawable, e) => (.error (.panicked Wait.emptyWindow), e)

end Testbed.Environment
