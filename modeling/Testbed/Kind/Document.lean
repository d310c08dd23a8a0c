import Testbed.Decimal.Shortest
import Testbed.Kind.Manifest
import Testbed.Yaml.Basic

/-!
The YAML documents given to kind and kubectl.
-/
namespace Testbed.Kind

open Yaml (text flag list record optional unlessEmpty ifSet)

def pairsYaml (pairs : List (String × String)) : Yaml :=
  record (pairs.map fun p => (p.1, text p.2))

def metadata (name : Option String) (labels : List (String × String)) : Yaml :=
  record (optional "name" (name.map text) ++ [("labels", pairsYaml labels)])

def portYaml (p : String × Nat) : Yaml :=
  record [("name", text p.1), ("containerPort", .ofNat p.2), ("protocol", text "TCP")]

def variableYaml (e : String × String) : Yaml :=
  record [("name", text e.1), ("value", text e.2)]

def limitsYaml (l : Limits) : Option Yaml :=
  if l.isEmpty then none
  else
    some (record [("limits", record
      (optional "cpu" (l.cpus.map fun x => text (Decimal.plain x)) ++
        optional "memory" (l.memory.map fun n => text (Decimal.text n))))])

def securityYaml (c : Container) : Option Yaml :=
  let fields := ifSet "privileged" c.privileged ++
    optional "runAsUser" (c.user.map fun u => .ofNat u.uid) ++
    optional "runAsGroup" ((c.user.bind (·.gid)).map .ofNat) ++
    (if c.capabilities.isEmpty then []
      else [("capabilities", record [("add", .texts c.capabilities)])])
  if fields.isEmpty then none else some (record fields)

def mountYaml (m : Mount) : Yaml :=
  record ([("name", text m.name), ("mountPath", text m.path)] ++ ifSet "readOnly" m.readOnly)

def volumeYaml (v : Volume) : Yaml :=
  record [("name", text v.name),
    ("hostPath", record (("path", text v.path) ::
      (if v.isDirectory then [("type", text "Directory")] else [])))]

def containerYaml (c : Container) : Yaml :=
  record ([("name", text c.name), ("image", text c.image),
      ("imagePullPolicy", text "IfNotPresent")] ++
    optional "command" (c.override.map fun p => .texts [p]) ++
    unlessEmpty "args" (c.args.map text) ++
    unlessEmpty "ports" (c.ports.map portYaml) ++
    unlessEmpty "env" (c.env.map variableYaml) ++
    optional "resources" (limitsYaml c.limits) ++
    optional "securityContext" (securityYaml c) ++
    [("volumeMounts", list (c.mounts.map mountYaml))])

def Deployment.fields (d : Deployment) : List (String × Yaml) :=
  [("apiVersion", text "apps/v1"), ("kind", text "Deployment"),
    ("metadata", metadata (some d.name) d.labels),
    ("spec", record [("replicas", .ofNat 1),
      ("selector", record [("matchLabels", pairsYaml d.selector)]),
      ("template", record [("metadata", metadata none d.labels),
        ("spec", record (ifSet "hostPID" d.hostPid ++
          [("containers", list [containerYaml d.container]),
            ("volumes", list (d.volumes.map volumeYaml))]))])])]

def servicePortYaml (p : String × Nat) : Yaml :=
  record [("name", text p.1), ("port", .ofNat p.2), ("targetPort", .ofNat p.2),
    ("protocol", text "TCP")]

def Service.fields (s : Service) : List (String × Yaml) :=
  [("apiVersion", text "v1"), ("kind", text "Service"),
    ("metadata", metadata (some s.name) s.labels),
    ("spec", record [("type", text "NodePort"), ("selector", pairsYaml s.selector),
      ("ports", list (s.ports.map servicePortYaml))])]

def Manifest.document (m : Manifest) : String :=
  match m.service with
  | none => Yaml.document m.deployment.fields
  | some s => Yaml.document m.deployment.fields ++ "---\n" ++ Yaml.document s.fields

def clusterDocument (shared : String) : String :=
  Yaml.document [("kind", text "Cluster"), ("apiVersion", text "kind.x-k8s.io/v1alpha4"),
    ("nodes", list [record [("role", text "control-plane"),
      ("extraMounts", list [record [("hostPath", text shared),
        ("containerPath", text nodeShared)]])]])]

end Testbed.Kind
