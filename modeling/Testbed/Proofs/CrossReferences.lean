import Mathlib.Data.List.Nodup
import Testbed.Proofs.Renderable
import Testbed.Proofs.SameWorkload

/-!
The objects of a manifest refer to one another by labels, ports and names of volumes. What is
referred to is always there, however many ports and volumes a launch has.
-/
namespace Testbed.Kind

open Yaml (text record list)

def Manifest.objects (m : Manifest) : List (List (String × Yaml)) :=
  m.deployment.fields :: m.service.toList.map Service.fields

theorem Manifest.document_eq_intercalate (m : Manifest) :
    m.document = "---\n".intercalate (m.objects.map Yaml.document) := by
  rw [Manifest.document, Manifest.objects]
  cases m.service <;> rfl

/-- The labels wanted are some of the labels that pods are given. Without labels, a selector would
pick every pod. -/
def Selects (selector labels : Option Yaml) : Prop :=
  ∃ wanted given, selector = some (record wanted) ∧ labels = some (record given) ∧
    wanted ≠ [] ∧ wanted ⊆ given

structure Fronts (s : Yaml) (labels : Option Yaml) (c : Yaml) : Prop where
  kind : s.textAt ["kind"] = some "Service"
  selects : Selects (s.at? ["spec", "selector"]) labels
  ports : (s.itemsAt ["spec", "ports"]).map
      (fun p => (p.textAt ["name"], p.numberAt ["port"], p.numberAt ["targetPort"])) =
    (c.itemsAt ["ports"]).map
      fun p => (p.textAt ["name"], p.numberAt ["containerPort"], p.numberAt ["containerPort"])

/-- All that the objects made of a launch refer to is there: a deployment with the one container of
its pods, and the services in front of it. -/
structure Coherent (l : Launch) (d c : Yaml) (services : List Yaml) : Prop where
  kind : d.textAt ["kind"] = some "Deployment"
  container : d.itemsAt ["spec", "template", "spec", "containers"] = [c]
  selects : Selects (d.at? ["spec", "selector", "matchLabels"])
    (d.at? ["spec", "template", "metadata", "labels"])
  ports : (c.itemsAt ["ports"]).map (fun p => (p.textAt ["name"], p.numberAt ["containerPort"])) =
    l.ports.entries.map fun p => (some p.1, some p.2)
  served : services.length = if l.ports.entries = [] then 0 else 1
  fronts : ∀ s ∈ services, Fronts s (d.at? ["spec", "template", "metadata", "labels"]) c
  volumes : ∃ names : List String, names.Nodup ∧ names.length = l.options.volumes.length + 1 ∧
    (d.itemsAt ["spec", "template", "spec", "volumes"]).map (Yaml.textAt ["name"]) =
      names.map some ∧
    (c.itemsAt ["volumeMounts"]).map (Yaml.textAt ["name"]) = names.map some

variable {l : Launch} {specs : List VolumeSpec}

theorem selects_allLabels (scope name : String) :
    Selects (some (pairsYaml (selectorLabels name))) (some (pairsYaml (allLabels scope name))) :=
  ⟨_, _, rfl, rfl, by simp [selectorLabels], by simp [selectorLabels, allLabels]⟩

theorem at?_podLabels (d : Deployment) :
    (record d.fields).at? ["spec", "template", "metadata", "labels"] =
      some (pairsYaml d.labels) := by
  simp [Deployment.fields, metadata, List.lookup_append, List.lookup_cons]

theorem at?_matchLabels (d : Deployment) :
    (record d.fields).at? ["spec", "selector", "matchLabels"] = some (pairsYaml d.selector) := by
  simp [Deployment.fields, List.lookup_cons]

theorem at?_selector (s : Service) :
    (record s.fields).at? ["spec", "selector"] = some (pairsYaml s.selector) := by
  simp [Service.fields, List.lookup_cons]

theorem extraName_injective : Function.Injective extraName := by
  intro i j h
  exact Decimal.text_injective ((String.append_right_inj _).1 h)

theorem extraName_ne_shared (i : Nat) : extraName i ≠ "shared" := by
  intro h
  have hhead := congrArg (fun s => s.toList.head?) h
  simp [extraName] at hhead

def volumeNames (count : Nat) : List String := "shared" :: (List.range count).map extraName

theorem nodup_volumeNames (count : Nat) : (volumeNames count).Nodup := by
  refine List.nodup_cons.2 ⟨?_, List.nodup_range.map extraName_injective⟩
  intro h
  obtain ⟨i, -, hi⟩ := List.mem_map.1 h
  exact extraName_ne_shared i hi

theorem map_extraName (specs : List VolumeSpec) :
    specs.zipIdx.map (fun v => extraName v.2) = (List.range specs.length).map extraName := by
  rw [List.range_eq_range', ← List.zipIdx_map_snd 0 specs, List.map_map]
  rfl

theorem names_volumes (l : Launch) (specs : List VolumeSpec) (user : Option User) :
    (deploymentOf l specs.zipIdx user).volumes.map (·.name) = volumeNames specs.length := by
  rw [volumeNames, ← map_extraName, deploymentOf, List.map_cons, List.map_map]
  rfl

theorem names_mounts (l : Launch) (specs : List VolumeSpec) (user : Option User) :
    (containerOf l specs.zipIdx user).mounts.map (·.name) = volumeNames specs.length := by
  rw [volumeNames, ← map_extraName, containerOf, List.map_cons, List.map_map]
  rfl

theorem itemsAt_volumesYaml (d : Deployment) :
    (record d.fields).itemsAt ["spec", "template", "spec", "volumes"] =
      d.volumes.map volumeYaml := by
  simp [Deployment.fields, Yaml.itemsAt, List.lookup_cons, List.lookup_append, Yaml.items]

theorem itemsAt_volumes (d : Deployment) :
    ((record d.fields).itemsAt ["spec", "template", "spec", "volumes"]).map
        (Yaml.textAt ["name"]) = (d.volumes.map (·.name)).map some := by
  simp [itemsAt_volumesYaml, Function.comp_def, volumeYaml, Yaml.textAt, Yaml.text?]

theorem itemsAt_volumeMounts (c : Container) :
    ((containerYaml c).itemsAt ["volumeMounts"]).map (Yaml.textAt ["name"]) =
      (c.mounts.map (·.name)).map some := by
  simp [containerYaml, Yaml.itemsAt, List.lookup_cons, List.lookup_append, Yaml.items,
    Function.comp_def, mountYaml, Yaml.textAt, Yaml.text?]

theorem readContainerPort (p : String × Nat) :
    (portYaml p).textAt ["name"] = some p.1 ∧
      (portYaml p).numberAt ["containerPort"] = some p.2 := by
  simp [portYaml, Yaml.textAt, Yaml.numberAt, List.lookup_cons, Yaml.ofNat, Yaml.text?,
    Yaml.number?]

theorem readServicePort (p : String × Nat) :
    (servicePortYaml p).textAt ["name"] = some p.1 ∧
      (servicePortYaml p).numberAt ["port"] = some p.2 ∧
      (servicePortYaml p).numberAt ["targetPort"] = some p.2 := by
  simp [servicePortYaml, Yaml.textAt, Yaml.numberAt, List.lookup_cons, Yaml.ofNat, Yaml.text?,
    Yaml.number?]

theorem itemsAt_servicePorts (s : Service) :
    (record s.fields).itemsAt ["spec", "ports"] = s.ports.map servicePortYaml := by
  simp [Service.fields, Yaml.itemsAt, List.lookup_cons, Yaml.items]

theorem fronts_fields {s : Service} {c : Container} {scope name : String}
    (hselector : s.selector = selectorLabels name) (hports : s.ports = c.ports) :
    Fronts (record s.fields) (some (pairsYaml (allLabels scope name))) (containerYaml c) := by
  constructor
  case kind => simp [Service.fields, Yaml.textAt, List.lookup_cons, Yaml.text?]
  case selects =>
    rw [at?_selector, hselector]
    exact selects_allLabels scope name
  case ports =>
    rw [itemsAt_servicePorts, itemsAt_ports, hports, List.map_map, List.map_map]
    refine List.map_congr_left fun p _ => ?_
    simp only [Function.comp_apply, readServicePort, readContainerPort]

theorem coherent_objects (user : Option User) (hspecs : specs.length = l.options.volumes.length) :
    Coherent l (record (deploymentOf l specs.zipIdx user).fields)
      (containerYaml (containerOf l specs.zipIdx user))
      ((serviceOf l).toList.map fun s => record s.fields) := by
  constructor
  case kind => simp [Deployment.fields, Yaml.textAt, List.lookup_cons, Yaml.text?]
  case container =>
    simp [Deployment.fields, Yaml.itemsAt, List.lookup_cons, List.lookup_append, Yaml.items,
      deploymentOf]
  case selects =>
    rw [at?_podLabels, at?_matchLabels]
    exact selects_allLabels l.scope.name l.name
  case ports =>
    rw [itemsAt_ports, List.map_map]
    refine List.map_congr_left fun p _ => ?_
    simp only [Function.comp_apply, readContainerPort]
  case served =>
    by_cases h : l.ports.entries = [] <;> simp [serviceOf, Table.isEmpty, h]
  case fronts =>
    intro y hy
    obtain ⟨s, hs, rfl⟩ := List.mem_map.1 hy
    rw [Option.mem_toList, serviceOf] at hs
    split at hs
    · cases hs
    · cases hs
      rw [at?_podLabels]
      exact fronts_fields rfl rfl
  case volumes =>
    refine ⟨volumeNames specs.length, nodup_volumeNames _, ?_, ?_, ?_⟩
    · simp [volumeNames, hspecs]
    · rw [itemsAt_volumes, names_volumes]
    · rw [itemsAt_volumeMounts, names_mounts]

/-- The manifests that are made are coherent, and they are made of the launches in which all is
well written. -/
theorem manifest_coherent (l : Launch) :
    (∀ m, Manifest.ofLaunch l = .ok m →
      m.document = "---\n".intercalate (m.objects.map Yaml.document) ∧
      ∃ d c services, m.objects.map record = d :: services ∧ Coherent l d c services) ∧
    ((∃ m, Manifest.ofLaunch l = .ok m) ↔ Renderable l) := by
  refine ⟨fun m hm => ⟨m.document_eq_intercalate, ?_⟩, ofLaunch_iff_renderable⟩
  obtain ⟨-, specs, user, hv, -, rfl⟩ := Manifest.ofLaunch_eq_ok.1 hm
  refine ⟨_, _, _, ?_, coherent_objects user hv.length_eq.symm⟩
  rw [Manifest.objects, List.map_cons, List.map_map]
  rfl

theorem manifest_coherent_launched : Renderable launched ∧
    ∃ m d c service, Manifest.ofLaunch launched = .ok m ∧
      m.objects.map record = [d, service] ∧ Coherent launched d c [service] := by
  obtain ⟨m, hm⟩ : ∃ m, Manifest.ofLaunch launched = .ok m := ⟨_, rfl⟩
  obtain ⟨hcoherent, hiff⟩ := manifest_coherent launched
  obtain ⟨-, d, c, services, hobjects, h⟩ := hcoherent m hm
  have hone : services.length = 1 := h.served.trans (by decide)
  obtain ⟨service, rfl⟩ := List.length_eq_one_iff.1 hone
  exact ⟨hiff.1 ⟨m, hm⟩, m, d, c, service, hm, hobjects, h⟩

end Testbed.Kind
