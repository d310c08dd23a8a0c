import Testbed.Command
import Testbed.Policy
import Testbed.Table

/-!
What a runnable is started with: image, environment, limits, and the check that tells when
it is ready.
-/
namespace Testbed

inductive Scheme where
  | http
  | https
deriving DecidableEq

def Scheme.text : Scheme → String
  | http => "http"
  | https => "https"

/-- A response is ready if its status lies in a closed range and its body holds every needle. -/
structure HttpProbe where
  port : String
  path : String
  scheme : Scheme
  least : Nat
  most : Nat
  needles : List String
deriving DecidableEq

def HttpProbe.plain (port path : String) : HttpProbe := ⟨port, path, .http, 200, 299, []⟩

inductive Probe where
  | http (p : HttpProbe)
  | tcp (port : String)
  | command (c : Command)
deriving DecidableEq

def Probe.port : Probe → Option String
  | http p => some p.port
  | tcp port => some port
  | command _ => none

structure Limits where
  memory : Option Nat
  cpus : Option Float

def Limits.isEmpty (l : Limits) : Bool := l.memory.isNone && l.cpus.isNone

inductive PidMode where
  | shielded
  | host
deriving DecidableEq

def PidMode.text : PidMode → String
  | shielded => "Private"
  | host => "Host"

inductive Lifecycle where
  | initialized
  | running
  | ready
  | stopped
deriving DecidableEq

namespace Lifecycle

def isRunning : Lifecycle → Bool
  | running | ready => true
  | _ => false

def text : Lifecycle → String
  | initialized => "initialized"
  | running => "running"
  | ready => "ready"
  | stopped => "stopped"

def title : Lifecycle → String
  | initialized => "Initialized"
  | running => "Running"
  | ready => "Ready"
  | stopped => "Stopped"

end Lifecycle

structure Options where
  image : String
  env : Table String
  user : Option String
  command : Option Command
  readiness : Option Probe
  backoff : Option Policy
  volumes : List String
  limits : Limits
  privileged : Bool
  capabilities : List String
  pidMode : PidMode

def Options.ofImage (image : String) : Options :=
  ⟨image, .empty, none, none, none, none, [], ⟨none, none⟩, false, [], .shielded⟩

abbrev Ports := Table Nat

end Testbed
