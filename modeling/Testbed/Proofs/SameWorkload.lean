import Testbed.Kind.Document
import Testbed.Proofs.CommandLine

/-!
The manifest of a launch against the arguments that start it with docker. Both are read on their
own terms, and convey the same workload.
-/
namespace Testbed

namespace Yaml

def get? (key : String) : Yaml → Option Yaml
  | record fields => fields.lookup key
  | _ => none

def at? (path : List String) (y : Yaml) : Option Yaml := path.foldlM (fun y key => y.get? key) y

def text? : Yaml → Option String
  | text s => some s
  | _ => none

def number? : Yaml → Option Nat
  | number n => some n
  | _ => none

def flag? : Yaml → Option Bool
  | flag b => some b
  | _ => none

def items : Yaml → List Yaml
  | list ys => ys
  | _ => []

def textAt (path : List String) (y : Yaml) : Option String := (y.at? path).bind text?

def numberAt (path : List String) (y : Yaml) : Option Nat := (y.at? path).bind number?

def isSet (path : List String) (y : Yaml) : Bool := (y.at? path).bind flag? = some true

def itemsAt (path : List String) (y : Yaml) : List Yaml := ((y.at? path).map items).getD []

theorem get?_of_fields (fields : List (String × Yaml)) (key : String) :
    (if fields.isEmpty then none else some (record fields)).bind (get? key) =
      fields.lookup key := by
  cases fields <;> rfl

theorem lookup_single (key key' : String) (v : Yaml) :
    [(key, v)].lookup key' = if key' = key then some v else none := by
  by_cases h : key' = key
  · simp [h]
  · simp [List.lookup_cons, beq_false_of_ne h, h]

@[simp] theorem lookup_optional (key key' : String) (v : Option Yaml) :
    (optional key v).lookup key' = if key' = key then v else none := by
  cases v with
  | none => simp [optional]
  | some v => exact lookup_single key key' v

@[simp] theorem lookup_unlessEmpty (key key' : String) (ys : List Yaml) :
    (unlessEmpty key ys).lookup key' = if key' = key ∧ ys ≠ [] then some (list ys) else none := by
  cases ys with
  | nil => simp [unlessEmpty]
  | cons y ys => simpa [unlessEmpty] using lookup_single key key' (list (y :: ys))

@[simp] theorem lookup_ifSet (key key' : String) (b : Bool) :
    (ifSet key b).lookup key' = if key' = key ∧ b then some (flag true) else none := by
  cases b with
  | false => simp [ifSet]
  | true => simpa [ifSet] using lookup_single key key' (flag true)

@[simp] theorem get?_record (key : String) (fields : List (String × Yaml)) :
    (record fields).get? key = fields.lookup key := rfl

@[simp] theorem at?_nil : at? [] = some := rfl

@[simp] theorem at?_cons (key : String) (path : List String) (y : Yaml) :
    y.at? (key :: path) = (y.get? key).bind (at? path) := by
  rw [at?, List.foldlM_cons]
  rfl

theorem itemsAt_of_get? {key : String} {y : Yaml} {ys : List Yaml}
    (h : y.get? key = if ys = [] then none else some (list ys)) : y.itemsAt [key] = ys := by
  rw [itemsAt, at?_cons, h]
  by_cases hys : ys = []
  · rw [if_pos hys, hys]
    rfl
  · rw [if_neg hys]
    rfl

end Yaml

namespace Kind

open Yaml (text flag list record optional unlessEmpty ifSet)

/-- What a container of a pod says of its workload. The first mount is the shared directory. -/
structure ContainerConveys (c : Yaml) (w : Description) : Prop where
  image : c.textAt ["image"] = some w.image
  override : (c.itemsAt ["command"]).map Yaml.text? = w.override.toList.map some
  args : (c.itemsAt ["args"]).map Yaml.text? = w.args.map some
  env : (c.itemsAt ["env"]).map (fun y => (y.textAt ["name"], y.textAt ["value"])) =
    w.env.map fun e => (some e.1, some e.2)
  ports : (c.itemsAt ["ports"]).map (Yaml.numberAt ["containerPort"]) = w.ports.map some
  memory : c.textAt ["resources", "limits", "memory"] = w.memory.map Decimal.text
  cpus : c.textAt ["resources", "limits", "cpu"] = w.cpus
  capabilities : (c.itemsAt ["securityContext", "capabilities", "add"]).map Yaml.text? =
    w.capabilities.map some
  privileged : c.isSet ["securityContext", "privileged"] = w.privileged
  uid : c.numberAt ["securityContext", "runAsUser"] = w.user.map (·.uid)
  gid : c.numberAt ["securityContext", "runAsGroup"] = w.user.bind (·.gid)
  mounts : (c.itemsAt ["volumeMounts"]).map
      (fun y => (y.textAt ["mountPath"], y.isSet ["readOnly"])) =
    (some podShared, false) :: w.mounts.map fun m => (some m.1, m.2)

def Conveys (deployment : Yaml) (w : Description) : Prop :=
  ∃ c, deployment.itemsAt ["spec", "template", "spec", "containers"] = [c] ∧
    ContainerConveys c w ∧ deployment.isSet ["spec", "template", "spec", "hostPID"] = w.hostPid

variable {c d : Yaml} {w w' : Description} {l : Launch} {m : Manifest}

theorem get?_securityYaml (c : Container) (key : String) :
    (securityYaml c).bind (Yaml.get? key) = (ifSet "privileged" c.privileged ++
      optional "runAsUser" (c.user.map fun u => .ofNat u.uid) ++
      optional "runAsGroup" ((c.user.bind (·.gid)).map .ofNat) ++
      optional "capabilities" (if c.capabilities = [] then none
        else some (record [("add", .texts c.capabilities)]))).lookup key := by
  refine (Yaml.get?_of_fields _ key).trans ?_
  by_cases h : c.capabilities = [] <;> simp [h, Yaml.optional]

theorem get?_limitsYaml (limits : Limits) (key : String) :
    ((limitsYaml limits).bind fun y => (y.get? "limits").bind (Yaml.get? key)) =
      (optional "cpu" (limits.cpus.map fun x => text (Decimal.plain x)) ++
        optional "memory" (limits.memory.map fun n => text (Decimal.text n))).lookup key := by
  rw [limitsYaml]
  split
  · next h =>
    rw [Limits.isEmpty, Bool.and_eq_true, Option.isNone_iff_eq_none, Option.isNone_iff_eq_none] at h
    rw [h.1, h.2]
    rfl
  · rfl

theorem itemsAt_args (c : Container) : (containerYaml c).itemsAt ["args"] = c.args.map text :=
  Yaml.itemsAt_of_get? (by simp [containerYaml, List.lookup_append, List.lookup_cons])

theorem itemsAt_ports (c : Container) :
    (containerYaml c).itemsAt ["ports"] = c.ports.map portYaml :=
  Yaml.itemsAt_of_get? (by simp [containerYaml, List.lookup_append, List.lookup_cons])

theorem itemsAt_env (c : Container) :
    (containerYaml c).itemsAt ["env"] = c.env.map variableYaml :=
  Yaml.itemsAt_of_get? (by simp [containerYaml, List.lookup_append, List.lookup_cons])

theorem at?_securityContext (c : Container) (key : String) :
    (containerYaml c).at? ["securityContext", key] = (securityYaml c).bind (Yaml.get? key) := by
  simp [containerYaml, List.lookup_append, List.lookup_cons]

theorem at?_capabilities (c : Container) :
    (containerYaml c).at? ["securityContext", "capabilities", "add"] =
      ((securityYaml c).bind (Yaml.get? "capabilities")).bind (Yaml.get? "add") := by
  rw [← at?_securityContext]
  simp [Option.bind_assoc]

theorem at?_resources (c : Container) (key : String) :
    (containerYaml c).at? ["resources", "limits", key] =
      (limitsYaml c.limits).bind fun y => (y.get? "limits").bind (Yaml.get? key) := by
  simp [containerYaml, List.lookup_append, List.lookup_cons]

theorem mount_of_mountYaml (m : Mount) :
    (mountYaml m).textAt ["mountPath"] = some m.path ∧
      (mountYaml m).isSet ["readOnly"] = m.readOnly := by
  cases h : m.readOnly <;>
    simp [mountYaml, Yaml.textAt, Yaml.isSet, List.lookup_cons, Yaml.text?, Yaml.flag?, h]

theorem mountsAt_containerYaml (c : Container) :
    ((containerYaml c).itemsAt ["volumeMounts"]).map
        (fun y => (y.textAt ["mountPath"], y.isSet ["readOnly"])) =
      c.mounts.map fun m => (some m.path, m.readOnly) := by
  have hitems : (containerYaml c).itemsAt ["volumeMounts"] = c.mounts.map mountYaml := by
    simp [Yaml.itemsAt, containerYaml, List.lookup_append, List.lookup_cons, Yaml.items]
  rw [hitems, List.map_map]
  refine List.map_congr_left fun m _ => ?_
  exact Prod.ext (mount_of_mountYaml m).1 (mount_of_mountYaml m).2

theorem containerConveys_containerYaml (l : Launch) (user : Option User)
    (specs : List VolumeSpec) :
    ContainerConveys (containerYaml (containerOf l specs.zipIdx user))
      (.ofLaunch l user specs) := by
  constructor
  case image =>
    simp [Yaml.textAt, containerYaml, containerOf, Description.ofLaunch, Yaml.text?,
      List.lookup_cons]
  case override =>
    simp only [Yaml.itemsAt, containerYaml, containerOf, Description.ofLaunch]
    cases (commandParts l.options.command).1 <;>
      simp [List.lookup_append, List.lookup_cons, Yaml.texts, Yaml.text?, Yaml.items]
  case args =>
    rw [itemsAt_args, List.map_map]
    rfl
  case env =>
    rw [itemsAt_env, List.map_map]
    rfl
  case ports =>
    rw [itemsAt_ports, List.map_map, Description.ofLaunch, Table.values, List.map_map]
    rfl
  case memory =>
    rw [Yaml.textAt, at?_resources, get?_limitsYaml]
    cases h : l.options.limits.memory <;>
      simp [containerOf, Description.ofLaunch, List.lookup_append, h, Yaml.text?]
  case cpus =>
    rw [Yaml.textAt, at?_resources, get?_limitsYaml]
    cases h : l.options.limits.cpus <;>
      simp [containerOf, Description.ofLaunch, List.lookup_append, h, Yaml.text?]
  case capabilities =>
    rw [Yaml.itemsAt, at?_capabilities, get?_securityYaml]
    by_cases h : l.options.capabilities = [] <;>
      simp [containerOf, Description.ofLaunch, List.lookup_append, h, Yaml.texts, Yaml.items,
        Function.comp_def, Yaml.text?]
  case privileged =>
    rw [Yaml.isSet, at?_securityContext, get?_securityYaml]
    cases h : l.options.privileged <;>
      simp [containerOf, Description.ofLaunch, List.lookup_append, h, Yaml.flag?]
  case uid =>
    rw [Yaml.numberAt, at?_securityContext, get?_securityYaml]
    cases user <;>
      simp [containerOf, Description.ofLaunch, List.lookup_append, Yaml.ofNat, Yaml.number?]
  case gid =>
    rw [Yaml.numberAt, at?_securityContext, get?_securityYaml]
    cases h : user.bind (·.gid) <;>
      simp [containerOf, Description.ofLaunch, List.lookup_append, h, Yaml.ofNat, Yaml.number?]
  case mounts =>
    rw [mountsAt_containerYaml, containerOf, List.map_cons, List.map_map, Description.ofLaunch,
      List.map_map]
    refine congrArg (_ :: ·) ?_
    -- The names of extra mounts are numbered, which is of no account here.
    have hextra : ((fun m : Mount => (some m.path, m.readOnly)) ∘ extraMount) =
        (fun v => (some v.container, v.modes.contains "ro")) ∘ Prod.fst := rfl
    rw [hextra, ← List.map_map, List.zipIdx_map_fst]
    rfl

theorem Manifest.document_eq (m : Manifest) :
    ∃ rest, m.document = Yaml.document m.deployment.fields ++ rest := by
  rw [Manifest.document]
  cases m.service with
  | none => exact ⟨"", (String.append_empty).symm⟩
  | some s => exact ⟨"---\n" ++ Yaml.document s.fields, String.append_assoc⟩

theorem conveys_fields {user : Option User} {specs : List VolumeSpec} :
    Conveys (record (deploymentOf l specs.zipIdx user).fields) (.ofLaunch l user specs) := by
  refine ⟨_, ?_, containerConveys_containerYaml l user specs, ?_⟩
  · simp [Deployment.fields, Yaml.itemsAt, List.lookup_cons, List.lookup_append, Yaml.items,
      deploymentOf]
  · by_cases h : l.options.pidMode = .host <;>
      simp [Deployment.fields, Yaml.isSet, List.lookup_cons, List.lookup_append, deploymentOf,
        Description.ofLaunch, h, Yaml.flag?]

theorem user_eq {a b : Option User} (hu : a.map (·.uid) = b.map (·.uid))
    (hg : a.bind (·.gid) = b.bind (·.gid)) : a = b := by
  obtain _ | ⟨u, g⟩ := a <;> obtain _ | ⟨u', g'⟩ := b <;> simp_all

theorem ContainerConveys.unique (h : ContainerConveys c w) (h' : ContainerConveys c w')
    (hpid : w.hostPid = w'.hostPid) : w = w' := by
  have hsome : ∀ {α : Type}, Function.Injective (List.map (some : α → Option α)) := fun {α} =>
    List.map_injective_iff.2 (Option.some_injective α)
  have hpairs : Function.Injective fun e : String × String => (some e.1, some e.2) := by
    intro a b hab
    simpa [Prod.ext_iff] using hab
  have hflags : Function.Injective fun m : String × Bool => (some m.1, m.2) := by
    intro a b hab
    simpa [Prod.ext_iff] using hab
  have himage := Option.some.inj (h.image.symm.trans h'.image)
  have hoverride := toList_injective (hsome (h.override.symm.trans h'.override))
  have hargs := hsome (h.args.symm.trans h'.args)
  have henv := List.map_injective_iff.2 hpairs (h.env.symm.trans h'.env)
  have hports := hsome (h.ports.symm.trans h'.ports)
  have hmemory := Option.map_injective Decimal.text_injective (h.memory.symm.trans h'.memory)
  have hcpus := h.cpus.symm.trans h'.cpus
  have hcapabilities := hsome (h.capabilities.symm.trans h'.capabilities)
  have hprivileged := h.privileged.symm.trans h'.privileged
  have hmounts := List.map_injective_iff.2 hflags (List.cons.inj (h.mounts.symm.trans h'.mounts)).2
  have huser := user_eq (h.uid.symm.trans h'.uid) (h.gid.symm.trans h'.gid)
  cases w
  cases w'
  simp_all

theorem Conveys.unique (h : Conveys d w) (h' : Conveys d w') : w = w' := by
  obtain ⟨c, hc, hw, hpid⟩ := h
  obtain ⟨c', hc', hw', hpid'⟩ := h'
  obtain rfl := List.head_eq_of_cons_eq (hc.symm.trans hc')
  exact hw.unique hw' (hpid.symm.trans hpid')

/-- A launch that has a manifest starts the same workload in either way, and what it starts is all
that the manifest and the arguments can be taken to say. -/
theorem manifest_conveys_arguments (h : Manifest.ofLaunch l = .ok m) : ∃ w : Description,
    Docker.Conveys (Docker.runArguments l) w ∧
    (∃ rest, m.document = Yaml.document m.deployment.fields ++ rest) ∧
    Conveys (record m.deployment.fields) w ∧
    w.override = (l.options.command.filter (·.noEntrypoint)).map (·.program) ∧
    List.Forall₂ (fun text => UserText text.toList) l.options.user.toList w.user.toList ∧
    List.Forall₂ MountText l.options.volumes w.mounts ∧
    (∀ w', Conveys (record m.deployment.fields) w' → w' = w) ∧
    (Docker.Plain w → ∀ w', Docker.Plain w' → Docker.Conveys (Docker.runArguments l) w' →
      w' = w) := by
  obtain ⟨-, specs, user, hv, hu, rfl⟩ := Manifest.ofLaunch_eq_ok.1 h
  have hdocker := Docker.conveys_runArguments hu hv
  have hkind : Conveys (record (deploymentOf l specs.zipIdx user).fields)
      (.ofLaunch l user specs) := conveys_fields
  refine ⟨.ofLaunch l user specs, hdocker, Manifest.document_eq _, hkind, ?_, hu,
    mountTexts_ofLaunch hv user, fun w' h' => h'.unique hkind,
    fun hw w' hw' h' => h'.unique hdocker hw' hw⟩
  cases hc : l.options.command with
  | none => simp [Description.ofLaunch, hc, commandParts]
  | some c => by_cases hn : c.noEntrypoint <;> simp [Description.ofLaunch, hc, commandParts, hn]

def launched : Launch where
  scope := ⟨"bed", "/tmp/bed", false⟩
  name := "a"
  ports := .ofList [("http", 80)]
  options := { Options.ofImage "image" with
    env := .ofList [("KEY", "a=b")]
    user := some "5:6"
    command := some ⟨"sh", ["-c", "true"], true⟩
    volumes := ["/host:/data:z,ro"]
    limits := ⟨some 64, none⟩ }

theorem manifest_conveys_arguments_launched : ∃ m w, Manifest.ofLaunch launched = .ok m ∧
    Docker.Conveys (Docker.runArguments launched) w ∧ Conveys (record m.deployment.fields) w ∧
    w.override = some "sh" ∧ w.mounts = [("/data", true)] := by
  have hspec : VolumeSpec.ofString? "/host:/data:z,ro" = some ⟨"/host", "/data", ["z", "ro"]⟩ := by
    decide +kernel
  have hvolume : MountText "/host:/data:z,ro" ("/data", true) :=
    .intro (VolumeSpec.ofString?_eq_some.1 hspec)
  have hunique : Relator.RightUnique MountText := fun _ _ _ => MountText.unique
  obtain ⟨m, hm⟩ : ∃ m, Manifest.ofLaunch launched = .ok m := ⟨_, rfl⟩
  obtain ⟨w, hdocker, -, hkind, hoverride, -, hmounts, -⟩ := manifest_conveys_arguments hm
  exact ⟨m, w, hm, hdocker, hkind, hoverride,
    hunique.forall₂ hmounts (.cons hvolume .nil)⟩

def worded (env : List (String × String)) (image : String) (privileged : Bool)
    (args : List String) : Launch :=
  { launched with options := { Options.ofImage image with
      env := .ofList env, privileged, command := some ⟨"", args, false⟩ } }

theorem conveys_worded {env : List (String × String)} {image : String} {privileged : Bool}
    {args : List String} {w : Description}
    (h : Manifest.ofLaunch (worded env image privileged args) = .ok m)
    (hw : Conveys (record m.deployment.fields) w) :
    w.image = image ∧ w.env = (Table.ofList env).entries := by
  obtain ⟨-, specs, user, -, -, rfl⟩ := Manifest.ofLaunch_eq_ok.1 h
  obtain rfl := hw.unique conveys_fields
  exact ⟨rfl, rfl⟩

/-- Arguments do not tell where a key ends, or that an image is no option: launches that docker
takes for one have manifests of their own. -/
theorem arguments_of_distinct_manifests :
    let apart (l l' : Launch) := Docker.runArguments l = Docker.runArguments l' ∧
      ∃ m m', Manifest.ofLaunch l = .ok m ∧ Manifest.ofLaunch l' = .ok m' ∧
        ∀ w w', Conveys (record m.deployment.fields) w →
          Conveys (record m'.deployment.fields) w' → w ≠ w'
    apart (worded [("A=B", "C")] "image" false []) (worded [("A", "B=C")] "image" false []) ∧
    apart (worded [] "--privileged" false ["image"]) (worded [] "image" true []) := by
  intro apart
  refine ⟨⟨rfl, _, _, rfl, rfl, fun w w' h h' heq => ?_⟩,
    ⟨rfl, _, _, rfl, rfl, fun w w' h h' heq => ?_⟩⟩
  · have henv := (conveys_worded rfl h).2.symm.trans (heq ▸ (conveys_worded rfl h').2)
    exact absurd henv (by decide)
  · have himage := (conveys_worded rfl h).1.symm.trans (heq ▸ (conveys_worded rfl h').1)
    exact absurd himage (by decide)

end Kind

end Testbed
