import Testbed.Tool

/-!
The state of a staged world: scripted tools and the processes they started, HTTP servers with
canned answers, and the settings of the backend that launches nothing.
-/
namespace Testbed.StandIn

/-- When a process that was started ends: never by itself, when its container is first
inspected, or when its container is to be halted. -/
inductive Mode where
  | block
  | endAtInspection
  | endAtHalt
deriving DecidableEq

/-- What calls of a tool that start with some arguments print, and how they end; it counts for
some number of uses, if one is given. -/
structure Rule where
  tool : String
  args : List String
  times : Option Nat
  used : Nat
  stdout : List UInt8
  stderr : List UInt8
  ending : Ending
  mode : Mode

structure Process where
  container : Option String
  log : String
  stdout : List UInt8
  stderr : List UInt8
  ending : Ending
  mode : Mode
  ended : Bool
  reaped : Bool

/-- A server answers with the first body, which it keeps if there is no other. -/
structure Server where
  port : Nat
  status : Nat
  bodies : List String
  served : Nat

structure Staging where
  createFails : Bool
  launchFails : List String
  haltFails : List String
  closesInLaunch : List String
  stopsInExec : List String
  scripts : Table (List ExecOutput)
  pinned : List ((String × String) × Nat)
  nextPort : Nat

/-- `tools` are those in the directory `bin`; `linked` tells whether servers can be reached at
all. -/
structure State where
  bin : String
  tools : List String
  rules : List Rule
  calls : List Invocation
  spawned : List Invocation
  processes : List Process
  servers : List Server
  linked : Bool
  staging : Staging

namespace Staging

def empty : Staging := ⟨false, [], [], [], [], .empty, [], 40000⟩

def pin (runnable port : String) (n : Nat) (s : Staging) : Staging :=
  { s with pinned := ((runnable, port), n) :: s.pinned }

def heal (runnable : String) (s : Staging) : Staging :=
  { s with haltFails := s.haltFails.filter (· ≠ runnable) }

end Staging

namespace State

def empty : State := ⟨"", [], [], [], [], [], [], false, .empty⟩

def removeTool (tool : String) (s : State) : State :=
  { s with tools := s.tools.filter (· ≠ tool) }

def restoreTool (tool : String) (s : State) : State := { s with tools := tool :: s.tools }

def forgetCalls (s : State) : State := { s with calls := [], spawned := [] }

end State

end Testbed.StandIn
