import Testbed.Proofs.CommandLine

/-!
Launches that docker starts with the same arguments. The arguments are read in one way, so they
are the same exactly if the launches agree in all that docker is told. What a launch holds besides,
such as the names of its ports or how it becomes ready, leaves no trace in them.
-/
namespace Testbed.Docker

/-- Launches that agree in what docker is told of them: of ports their numbers, of a limit on
processors its text, and of a command what it replaces the entrypoint by and what it passes on. -/
structure ToldAlike (l l' : Launch) : Prop where
  scope : l.scope.name = l'.scope.name
  name : l.name = l'.name
  dir : l.scope.dir = l'.scope.dir
  env : l.options.env = l'.options.env
  user : l.options.user = l'.options.user
  ports : l.ports.values = l'.ports.values
  volumes : l.options.volumes = l'.options.volumes
  memory : l.options.limits.memory = l'.options.limits.memory
  cpus : l.options.limits.cpus.map Decimal.plain = l'.options.limits.cpus.map Decimal.plain
  privileged : l.options.privileged = l'.options.privileged
  capabilities : l.options.capabilities = l'.options.capabilities
  pidMode : l.options.pidMode = l'.options.pidMode
  override : (Kind.commandParts l.options.command).1 = (Kind.commandParts l'.options.command).1
  image : l.options.image = l'.options.image
  args : (Kind.commandParts l.options.command).2 = (Kind.commandParts l'.options.command).2

/-- The image is not taken for an option, nor a part of a key for one of its value. -/
structure Tellable (l : Launch) : Prop where
  image : l.options.image.toList.head? ≠ some '-'
  keys : ∀ key ∈ l.options.env.keys, '=' ∉ key.toList

structure Tells (ss : List Setting) (l : Launch) : Prop where
  scope : valuesOf "--net" ss = [l.scope.name]
  container : valuesOf "--name" ss = [containerName l.scope.name l.name]
  volumes : valuesOf "-v" ss = (l.scope.dir ++ ":" ++ l.scope.dir ++ ":z") :: l.options.volumes
  env : valuesOf "-e" ss = l.options.env.entries.map fun e => e.1 ++ "=" ++ e.2
  user : valuesOf "--user" ss = l.options.user.toList
  ports : valuesOf "-p" ss = l.ports.values.map Decimal.text
  memory : valuesOf "--memory" ss =
    (l.options.limits.memory.map fun n => Decimal.text n ++ "b").toList
  cpus : valuesOf "--cpus" ss = (l.options.limits.cpus.map Decimal.plain).toList
  privileged : ⟨"--privileged", none⟩ ∈ ss ↔ l.options.privileged = true
  capabilities : valuesOf "--cap-add" ss = l.options.capabilities
  pidMode : "host" ∈ valuesOf "--pid" ss ↔ l.options.pidMode = .host
  override : valuesOf "--entrypoint" ss = (Kind.commandParts l.options.command).1.toList

variable {l l' : Launch} {ss : List Setting}

theorem Tellable.entries (h : Tellable l) : ∀ e ∈ l.options.env.entries, '=' ∉ e.1.toList :=
  fun _ he => h.keys _ (List.mem_map_of_mem he)

theorem sharedVolume_inj {dir dir' : String}
    (h : dir ++ ":" ++ dir ++ ":z" = dir' ++ ":" ++ dir' ++ ":z") : dir = dir' := by
  have hlist : dir.toList ++ (':' :: dir.toList ++ [':', 'z']) =
      dir'.toList ++ (':' :: dir'.toList ++ [':', 'z']) := by
    simpa using congrArg String.toList h
  -- The directory stands there twice, so both are of one length.
  have hlength : dir.toList.length = dir'.toList.length := by
    have htwice := congrArg List.length hlist
    simp only [List.length_append, List.length_cons] at htwice
    omega
  exact String.toList_injective (List.append_inj hlist hlength).1

theorem containerName_right_inj {scope name name' : String}
    (h : containerName scope name = containerName scope name') : name = name' :=
  (String.append_right_inj (scope ++ "-")).1 h

theorem bytes_injective : Function.Injective fun n => Decimal.text n ++ "b" := fun _ _ h =>
  Decimal.text_injective ((String.append_left_inj "b").1 h)

theorem pidMode_eq {p p' : PidMode} (h : p = .host ↔ p' = .host) : p = p' := by
  cases p <;> cases p' <;> simp_all

theorem tells_settingsOf (l : Launch) : Tells (settingsOf l) l := by
  constructor
  case privileged => simp [settingsOf, mem_switched, not_mem_named]
  all_goals simp [settingsOf, valuesOf_append, valuesOf_named, valuesOf_switched]

theorem Tells.toldAlike (h : Tells ss l) (h' : Tells ss l') (hl : Tellable l) (hl' : Tellable l')
    (himage : l.options.image = l'.options.image)
    (hargs : (Kind.commandParts l.options.command).2 =
      (Kind.commandParts l'.options.command).2) : ToldAlike l l' := by
  have hscope := List.singleton_injective (h.scope.symm.trans h'.scope)
  have hcontainer := List.singleton_injective (h.container.symm.trans h'.container)
  rw [hscope] at hcontainer
  obtain ⟨hdir, hvolumes⟩ := List.cons.inj (h.volumes.symm.trans h'.volumes)
  have hentries := pairs_inj hl.entries hl'.entries (h.env.symm.trans h'.env)
  exact
    { scope := hscope
      name := containerName_right_inj hcontainer
      dir := sharedVolume_inj hdir
      env := Table.ext hentries
      user := toList_injective (h.user.symm.trans h'.user)
      ports := List.map_injective_iff.2 Decimal.text_injective (h.ports.symm.trans h'.ports)
      volumes := hvolumes
      memory := Option.map_injective bytes_injective
        (toList_injective (h.memory.symm.trans h'.memory))
      cpus := toList_injective (h.cpus.symm.trans h'.cpus)
      privileged := Bool.eq_iff_iff.2 (h.privileged.symm.trans h'.privileged)
      capabilities := h.capabilities.symm.trans h'.capabilities
      pidMode := pidMode_eq (h.pidMode.symm.trans h'.pidMode)
      override := toList_injective (h.override.symm.trans h'.override)
      image := himage
      args := hargs }

theorem ToldAlike.runArguments_eq (h : ToldAlike l l') : runArguments l = runArguments l' := by
  simp only [runArguments, imageArguments_eq, h.scope, h.name, h.dir, h.env, h.user, h.ports,
    h.volumes, h.memory, h.cpus, h.privileged, h.capabilities, h.pidMode, h.override, h.image,
    h.args]

/-- Two launches have the same arguments exactly if they agree in all that docker is told. -/
theorem runArguments_eq_iff (hl : Tellable l) (hl' : Tellable l') :
    runArguments l = runArguments l' ↔ ToldAlike l l' := by
  constructor
  · intro h
    obtain ⟨words, hwords, hspells⟩ := spells_runArguments l
    obtain ⟨words', hwords', hspells'⟩ := spells_runArguments l'
    rw [hwords, hwords'] at h
    obtain ⟨hsettings, himage, hargs⟩ :=
      hspells.unique hspells' hl.image hl'.image (List.cons.inj h).2
    have htells := tells_settingsOf l
    rw [hsettings] at htells
    exact htells.toldAlike (tells_settingsOf l') hl hl' himage hargs
  · exact ToldAlike.runArguments_eq

def crowded (port : String) (command : Command) : Launch where
  scope := ⟨"bed", "/tmp/bed:z", false⟩
  name := "a"
  ports := .ofList [(port, 80)]
  options := { Options.ofImage "image" with
    env := .ofList [("-v", "--privileged"), ("KEY", "a=b")]
    user := some "--memory=1b"
    command := some command
    volumes := ["--cap-add=ALL", "-p"]
    limits := ⟨some 64, none⟩
    privileged := true
    capabilities := ["NET_ADMIN"]
    pidMode := .host }

theorem runArguments_eq_iff_crowded :
    let l := crowded "http" ⟨"serve", [], false⟩
    let l' := crowded "web" ⟨"", ["serve"], false⟩
    Tellable l ∧ Tellable l' ∧ runArguments l = runArguments l' ∧ ToldAlike l l' ∧
      l.ports.keys ≠ l'.ports.keys ∧ l.options.command ≠ l'.options.command := by
  intro l l'
  have hl : Tellable l := ⟨by decide, by decide +kernel⟩
  have hl' : Tellable l' := ⟨by decide, by decide +kernel⟩
  have h : runArguments l = runArguments l' := rfl
  exact ⟨hl, hl', h, (runArguments_eq_iff hl hl').1 h, by decide +kernel, by decide⟩

end Testbed.Docker
