import Testbed.Json.Decode
import Testbed.Options
import Testbed.Text.Blank

/-!
Settings of an environment: defaults, overrides from environment variables, and their JSON
form.
-/
namespace Testbed

/-- Without a base directory the system's temporary directory is used. -/
structure Config where
  name : String
  baseDir : Option String
  keepDir : Bool
  verbose : Bool
  readyBackoff : Policy
  dockerHost : String
  nodeImage : Option String

namespace Config

def ofName (name : String) : Config :=
  ⟨name, none, false, false, .readiness, "127.0.0.1", none⟩

def isAffirmed (value : String) : Bool :=
  String.ofList ((Text.trim value.toList).map Char.toLower) ∈ ["1", "true", "yes", "on"]

def override (old : Option String) (new : Option String) : Option String :=
  match new with
  | none | some "" => old
  | some v => some v

def applyEnv (c : Config) (lookup : String → Option String) : Config :=
  { c with
    baseDir := override c.baseDir (lookup "RIGGING_TMP_DIR")
    keepDir := ((lookup "RIGGING_KEEP_DIR").map isAffirmed).getD c.keepDir
    verbose := ((lookup "RIGGING_VERBOSE").map isAffirmed).getD c.verbose
    dockerHost := (override (some c.dockerHost) (lookup "RIGGING_DOCKER_HOST")).getD c.dockerHost }

end Config

/-- Settings made by hand; they win over environment variables. -/
structure Builder where
  name : String
  baseDir : Option String
  keepDir : Option Bool
  verbose : Option Bool
  readyBackoff : Option Policy
  dockerHost : Option String
  nodeImage : Option String

namespace Builder

def empty (name : String) : Builder := ⟨name, none, none, none, none, none, none⟩

def generatedName (id : String) : String := "rigging-" ++ id

def config (b : Builder) (lookup : String → Option String) : Config :=
  let c := (Config.ofName b.name).applyEnv lookup
  { c with
    baseDir := b.baseDir.or c.baseDir
    keepDir := b.keepDir.getD c.keepDir
    verbose := b.verbose.getD c.verbose
    readyBackoff := b.readyBackoff.getD c.readyBackoff
    dockerHost := b.dockerHost.getD c.dockerHost
    nodeImage := b.nodeImage.or c.nodeImage }

end Builder

def Span.toJson (s : Span) : Json :=
  .record [("secs", .ofNat s.secs), ("nanos", .ofNat s.subsec)]

def Span.ofJson? (v : Json) : Option Span := do
  let f ← v.fields? ["secs", "nanos"] true
  let secs ← f.required 0 (Json.upTo? 0xFFFF_FFFF_FFFF_FFFF)
  let nanos ← f.required 1 (Json.upTo? 0xFFFF_FFFF)
  Span.ofParts? secs nanos

def Policy.toJson (p : Policy) : Json :=
  .record [("min", p.min.toJson), ("max", p.max.toJson), ("max_retries", .ofNat p.retries)]

def Policy.ofJson? (v : Json) : Option Policy := do
  let f ← v.fields? ["min", "max", "max_retries"] false
  return ⟨← f.required 0 Span.ofJson?, ← f.required 1 Span.ofJson?,
    ← f.required 2 (Json.upTo? 0xFFFF_FFFF)⟩

def Config.toJson (c : Config) : Json :=
  .record [("name", .text c.name), ("base_dir", .ofOption .text c.baseDir),
    ("keep_dir", .bool c.keepDir), ("verbose", .bool c.verbose),
    ("ready_backoff", c.readyBackoff.toJson), ("docker_host_address", .text c.dockerHost),
    ("kind_node_image", .ofOption .text c.nodeImage)]

def Config.ofJson? (v : Json) : Option Config := do
  let f ← v.fields? ["name", "base_dir", "keep_dir", "verbose", "ready_backoff",
    "docker_host_address", "kind_node_image"] false
  return ⟨← f.required 0 Json.text?, ← f.nullable 1 Json.text?, ← f.required 2 Json.bool?,
    ← f.required 3 Json.bool?, ← f.required 4 Policy.ofJson?, ← f.required 5 Json.text?,
    ← f.nullable 6 Json.text?⟩

def Limits.toJson (l : Limits) : Json :=
  .record [("memory_bytes", .ofOption .ofNat l.memory), ("cpus", .ofOption .ofFloat l.cpus)]

def Limits.ofJson? (v : Json) : Option Limits := do
  let f ← v.fields? ["memory_bytes", "cpus"] false
  return ⟨← f.nullable 0 (Json.upTo? 0xFFFF_FFFF_FFFF_FFFF), ← f.nullable 1 Json.float?⟩

def PidMode.toJson (m : PidMode) : Json := .text m.text

def PidMode.ofJson? : Json → Option PidMode :=
  Json.choice? [("Private", .shielded), ("Host", .host)]

def Lifecycle.toJson (l : Lifecycle) : Json := .text l.title

def Lifecycle.ofJson? : Json → Option Lifecycle :=
  Json.choice? [("Initialized", .initialized), ("Running", .running), ("Ready", .ready),
    ("Stopped", .stopped)]

end Testbed
