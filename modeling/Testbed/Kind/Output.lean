import Testbed.Failure
import Testbed.Json.Decode
import Testbed.Options

/-!
Reading what kubectl prints as JSON: the addresses of a node, the conditions of pods, and the
ports of a service.
-/
namespace Testbed.Kind

structure Typed where
  type : String
  value : String

def Typed.read (field : String) (v : Json) : Option Typed := do
  let f ← v.fields? ["type", field] false
  return ⟨← f.required 0 Json.text?, ← f.required 1 Json.text?⟩

def listOf {α : Type} (read : Json → Option α) (v : Json) : Option (List α) :=
  v.items?.bind (·.mapM read)

def decode {α : Type} (read : Json → Option α) (command output : String) : Except Failure α :=
  match (Json.read output).bind read with
  | some a => .ok a
  | none => .error (.parse command .json output)

def internalAddress (addresses : List Typed) : Except OutputError String :=
  match addresses.find? (·.type = "InternalIP") with
  | some a => if a.value = "" then .error .noInternalAddress else .ok a.value
  | none => .error .noInternalAddress

def orParse {α : Type} (command output : String) : Except OutputError α → Except Failure α
  | .ok a => .ok a
  | .error e => .error (.parse command e output)

def readAddress (command output : String) : Except Failure String := do
  let addresses ← decode (listOf (Typed.read "address")) command output
  orParse command output (internalAddress addresses)

def conditions? (v : Json) : Option (List Typed) := do
  let pod ← v.fields? ["status"] false
  pod.defaulted 0 [] fun status => do
    let f ← status.fields? ["conditions"] false
    f.defaulted 0 [] (listOf (Typed.read "status"))

def pods? (v : Json) : Option (List (List Typed)) := do
  let f ← v.fields? ["items"] false
  f.required 0 (listOf conditions?)

def isReady (pod : List Typed) : Bool := pod.any fun c => c.type = "Ready" && c.value = "True"

def readReady (command output : String) : Except Failure Bool := do
  return (← decode pods? command output).any isReady

structure ServicePort where
  name : Option String
  port : Nat
  nodePort : Option Nat
deriving DecidableEq

def ServicePort.read (v : Json) : Option ServicePort := do
  let f ← v.fields? ["name", "port", "nodePort"] false
  return ⟨← f.nullable 0 Json.text?, ← f.required 1 (Json.upTo? 65535),
    ← f.nullable 2 (Json.upTo? 65535)⟩

def servicePorts? (v : Json) : Option (List ServicePort) := do
  let f ← v.fields? ["spec"] false
  f.required 0 fun spec => do
    let g ← spec.fields? ["ports"] false
    g.defaulted 0 [] (listOf ServicePort.read)

def nodePort (exposed : List ServicePort) (name : String) (port : Nat) :
    Except OutputError Nat :=
  match exposed.find? (·.name = some name) with
  | none => .error (.notExposed name)
  | some p =>
    if p.port ≠ port then .error (.otherPort name p.port port)
    else
      match p.nodePort with
      | none => .error (.noNodePort name)
      | some n => .ok n

/-- The node ports of the declared ports, of which a service exposes no more and no less. -/
def nodePorts (exposed : List ServicePort) (declared : Ports) : Except OutputError Ports :=
  if exposed.length ≠ declared.size then .error (.portCount exposed.length declared.size)
  else declared.mapM fun name port => nodePort exposed name port

def readNodePorts (command output : String) (declared : Ports) : Except Failure Ports := do
  let exposed ← decode servicePorts? command output
  orParse command output (nodePorts exposed declared)

end Testbed.Kind
