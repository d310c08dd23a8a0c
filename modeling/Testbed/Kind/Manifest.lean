import Testbed.Launch
import Testbed.Failure

/-!
Workloads as Kubernetes objects: a deployment of one pod and, for a workload with ports, a
service that exposes every port on the node. The shared directory reaches the pod through a mount
on the node.
-/
namespace Testbed.Kind

def nodeShared : String := "/rigging-shared"

def podShared : String := "/shared"

/-- A host path as the node sees it: the shared directory is mounted there, other paths are
taken as they are. -/
def nodePath (shared host : String) : String :=
  match Path.below? shared host with
  | some rest => Path.join nodeShared rest
  | none => host

structure Volume where
  name : String
  path : String
  isDirectory : Bool
deriving DecidableEq

structure Mount where
  name : String
  path : String
  readOnly : Bool
deriving DecidableEq

structure User where
  uid : Nat
  gid : Option Nat
deriving DecidableEq

/-- `override` replaces the entrypoint of the image. -/
structure Container where
  name : String
  image : String
  override : Option String
  args : List String
  ports : List (String × Nat)
  env : List (String × String)
  limits : Limits
  privileged : Bool
  user : Option User
  capabilities : List String
  mounts : List Mount

structure Deployment where
  name : String
  labels : List (String × String)
  selector : List (String × String)
  hostPid : Bool
  container : Container
  volumes : List Volume

structure Service where
  name : String
  labels : List (String × String)
  selector : List (String × String)
  ports : List (String × Nat)

structure Manifest where
  deployment : Deployment
  service : Option Service

def isPortName (name : String) : Bool :=
  let s := name.toList
  let doubled := (s.zip s.tail).contains ('-', '-')
  s ≠ [] && s.length ≤ 15 && s.all (fun c => c.isLower || c.isDigit || c == '-') &&
    s.any Char.isLower && s.head? ≠ some '-' && s.getLast? ≠ some '-' && !doubled

def checkPortNames (runnable : String) : List String → Except Failure Unit
  | [] => .ok ()
  | name :: r =>
    if isPortName name then checkPortNames runnable r
    else .error (.config (.badPortName runnable name))

structure VolumeSpec where
  host : String
  container : String
  modes : List String
deriving DecidableEq

def VolumeSpec.ofString? (s : String) : Option VolumeSpec :=
  match Text.splitAt ':' s with
  | [host, container] => some ⟨host, container, []⟩
  | [host, container, modes] => some ⟨host, container, Text.splitAt ',' modes⟩
  | _ => none

def readVolumes (runnable : String) : List String → Except Failure (List VolumeSpec)
  | [] => .ok []
  | v :: r =>
    match VolumeSpec.ofString? v with
    | none => .error (.config (.badVolume runnable v))
    | some spec => do return spec :: (← readVolumes runnable r)

def readId (s : List Char) : Option Nat := Decimal.readUpTo 0xFFFF_FFFF s

def User.ofString? (s : String) : Option User :=
  let uid := s.toList.takeWhile (· ≠ ':')
  match s.toList.dropWhile (· ≠ ':') with
  | [] => (readId uid).map fun u => ⟨u, none⟩
  | _ :: gid => do return ⟨← readId uid, some (← readId gid)⟩

def readUser (runnable : String) : Option String → Except Failure (Option User)
  | none => .ok none
  | some s =>
    match User.ofString? s with
    | none => .error (.config (.badUser runnable s))
    | some u => .ok (some u)

def sharedVolume : Volume := ⟨"shared", nodeShared, true⟩

def sharedMount : Mount := ⟨"shared", podShared, false⟩

def extraName (index : Nat) : String := "extra-" ++ Decimal.text index

def extraVolume (shared : String) (v : VolumeSpec × Nat) : Volume :=
  ⟨extraName v.2, nodePath shared v.1.host, false⟩

def extraMount (v : VolumeSpec × Nat) : Mount :=
  ⟨extraName v.2, v.1.container, v.1.modes.contains "ro"⟩

def commandParts : Option Command → Option String × List String
  | none => (none, [])
  | some c =>
    if c.noEntrypoint then (some c.program, c.args)
    else (none, if c.program = "" then c.args else c.argv)

def selectorLabels (name : String) : List (String × String) := [("app", name)]

def allLabels (scope name : String) : List (String × String) :=
  selectorLabels name ++ [("rigging.scope", scope)]

def containerOf (l : Launch) (volumes : List (VolumeSpec × Nat)) (user : Option User) :
    Container where
  name := l.name
  image := l.options.image
  override := (commandParts l.options.command).1
  args := (commandParts l.options.command).2
  ports := l.ports.entries
  env := l.options.env.entries
  limits := l.options.limits
  privileged := l.options.privileged
  user := user
  capabilities := l.options.capabilities
  mounts := sharedMount :: volumes.map extraMount

def deploymentOf (l : Launch) (volumes : List (VolumeSpec × Nat)) (user : Option User) :
    Deployment where
  name := l.name
  labels := allLabels l.scope.name l.name
  selector := selectorLabels l.name
  hostPid := l.options.pidMode = .host
  container := containerOf l volumes user
  volumes := sharedVolume :: volumes.map (extraVolume l.scope.dir)

def serviceOf (l : Launch) : Option Service :=
  if l.ports.isEmpty then none
  else some ⟨l.name, allLabels l.scope.name l.name, selectorLabels l.name, l.ports.entries⟩

/-- Fails on the first bad port name, else on the first bad volume, else on a bad user. -/
def Manifest.ofLaunch (l : Launch) : Except Failure Manifest := do
  checkPortNames l.name l.ports.keys
  let volumes ← readVolumes l.name l.options.volumes
  let user ← readUser l.name l.options.user
  return ⟨deploymentOf l volumes.zipIdx user, serviceOf l⟩

end Testbed.Kind
