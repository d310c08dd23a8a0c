import Testbed.Docker.Arguments
import Testbed.Proofs.Descriptions

/-!
How docker takes the arguments of `run`: options up to the first word that is none, then the image
and what is run in it.
-/
namespace Testbed.Docker

structure Setting where
  name : String
  value : Option String

def switches : List String := ["--rm", "--privileged"]

def isOption (name : String) : Bool := name.toList.head? = some '-' && !name.toList.contains '='

/-- The words that set an option. Other than a switch it takes a value, after an equals sign or as
a word of its own. -/
inductive Setting.Spelled : Setting → List String → Prop where
  | switch {name : String} (hn : isOption name) (hs : name ∈ switches) :
      Spelled ⟨name, none⟩ [name]
  | joined {name : String} (value : String) (hn : isOption name) :
      Spelled ⟨name, some value⟩ [name ++ "=" ++ value]
  | apart {name : String} (value : String) (hn : isOption name) (hs : name ∉ switches) :
      Spelled ⟨name, some value⟩ [name, value]

inductive Spells : List String → List Setting → Prop where
  | nil : Spells [] []
  | cons {s : Setting} {own words : List String} {ss : List Setting} (hs : s.Spelled own)
      (h : Spells words ss) : Spells (own ++ words) (s :: ss)

def valuesOf (name : String) (ss : List Setting) : List String :=
  ss.filterMap fun s => if s.name = name then s.value else none

/-- What is set for a workload. The first volume is the directory that is shared. -/
structure Describes (ss : List Setting) (w : Description) : Prop where
  override : valuesOf "--entrypoint" ss = w.override.toList
  env : valuesOf "-e" ss = w.env.map fun e => e.1 ++ "=" ++ e.2
  ports : valuesOf "-p" ss = w.ports.map Decimal.text
  memory : valuesOf "--memory" ss = (w.memory.map fun n => Decimal.text n ++ "b").toList
  cpus : valuesOf "--cpus" ss = w.cpus.toList
  capabilities : valuesOf "--cap-add" ss = w.capabilities
  privileged : ⟨"--privileged", none⟩ ∈ ss ↔ w.privileged
  hostPid : "host" ∈ valuesOf "--pid" ss ↔ w.hostPid
  user : List.Forall₂ (fun text => Kind.UserText text.toList) (valuesOf "--user" ss) w.user.toList
  mounts : ∃ dir texts, valuesOf "-v" ss = (dir ++ ":" ++ dir ++ ":z") :: texts ∧
    List.Forall₂ Kind.MountText texts w.mounts

def Conveys (arguments : List String) (w : Description) : Prop :=
  ∃ words ss, arguments = "run" :: (words ++ w.image :: w.args) ∧ Spells words ss ∧
    Describes ss w

variable {name value image image' : String} {s s' : Setting} {ss ss' : List Setting}
  {own own' words words' args args' rest rest' : List String} {w w' : Description} {l : Launch}

theorem isOption_iff : isOption name ↔ name.toList.head? = some '-' ∧ '=' ∉ name.toList := by
  simp [isOption]

theorem Setting.Spelled.dash (h : s.Spelled own) :
    ∃ word more, own = word :: more ∧ word.toList.head? = some '-' := by
  cases h with
  | switch hn hs => exact ⟨_, _, rfl, (isOption_iff.1 hn).1⟩
  | joined value hn => exact ⟨_, _, rfl, by simp [(isOption_iff.1 hn).1]⟩
  | apart value hn hs => exact ⟨_, _, rfl, (isOption_iff.1 hn).1⟩

theorem ne_joined (h : isOption name) (name' value : String) : name ≠ name' ++ "=" ++ value := by
  intro heq
  apply (isOption_iff.1 h).2
  rw [heq]
  simp

theorem joined_inj {name' value' : String} (h : '=' ∉ name.toList) (h' : '=' ∉ name'.toList)
    (heq : name ++ "=" ++ value = name' ++ "=" ++ value') : name = name' ∧ value = value' := by
  have hlist : name.toList ++ '=' :: value.toList = name'.toList ++ '=' :: value'.toList := by
    simpa using congrArg String.toList heq
  obtain ⟨hname, hvalue⟩ := Text.eq_of_append_cons h h' hlist
  exact ⟨String.toList_injective hname, String.toList_injective hvalue⟩

theorem Setting.Spelled.unique (h : s.Spelled own) (h' : s'.Spelled own')
    (heq : own ++ rest = own' ++ rest') : s = s' ∧ rest = rest' := by
  -- The first words are the same, so the options are spelled in the same way.
  cases h with
  | switch hn hs =>
    cases h' with
    | switch hn' hs' =>
      obtain ⟨rfl, hrest⟩ := List.cons.inj heq
      exact ⟨rfl, hrest⟩
    | joined value' hn' => exact absurd (List.cons.inj heq).1 (ne_joined hn _ _)
    | apart value' hn' hs' => exact absurd ((List.cons.inj heq).1 ▸ hs) hs'
  | joined value hn =>
    cases h' with
    | switch hn' hs' => exact absurd (List.cons.inj heq).1.symm (ne_joined hn' _ _)
    | joined value' hn' =>
      obtain ⟨hword, hrest⟩ := List.cons.inj heq
      obtain ⟨rfl, rfl⟩ := joined_inj (isOption_iff.1 hn).2 (isOption_iff.1 hn').2 hword
      exact ⟨rfl, hrest⟩
    | apart value' hn' hs' => exact absurd (List.cons.inj heq).1.symm (ne_joined hn' _ _)
  | apart value hn hs =>
    cases h' with
    | switch hn' hs' => exact absurd ((List.cons.inj heq).1 ▸ hs') hs
    | joined value' hn' => exact absurd (List.cons.inj heq).1 (ne_joined hn _ _)
    | apart value' hn' hs' =>
      obtain ⟨rfl, hvalue⟩ := List.cons.inj heq
      obtain ⟨rfl, hrest⟩ := List.cons.inj hvalue
      exact ⟨rfl, hrest⟩

theorem Spells.eq_nil (h : Spells words ss) (hi : image.toList.head? ≠ some '-')
    (heq : words ++ rest = image :: args) : words = [] ∧ ss = [] := by
  cases h with
  | nil => exact ⟨rfl, rfl⟩
  | cons hs h =>
    obtain ⟨word, more, rfl, hdash⟩ := hs.dash
    rw [List.cons_append, List.cons_append] at heq
    exact absurd ((List.cons.inj heq).1 ▸ hdash) hi

theorem Spells.unique (h : Spells words ss) (h' : Spells words' ss')
    (hi : image.toList.head? ≠ some '-') (hi' : image'.toList.head? ≠ some '-')
    (heq : words ++ image :: args = words' ++ image' :: args') :
    ss = ss' ∧ image = image' ∧ args = args' := by
  induction h generalizing words' ss' with
  | nil =>
    obtain ⟨rfl, rfl⟩ := h'.eq_nil hi heq.symm
    exact ⟨rfl, List.cons.inj heq⟩
  | cons hs h ih =>
    cases h' with
    | nil =>
      obtain ⟨hnil, -⟩ := (Spells.cons hs h).eq_nil hi' heq
      obtain ⟨word, more, rfl, -⟩ := hs.dash
      cases hnil
    | cons hs' h' =>
      rw [List.append_assoc, List.append_assoc] at heq
      obtain ⟨rfl, hrest⟩ := hs.unique hs' heq
      obtain ⟨rfl, himage⟩ := ih h' hrest
      exact ⟨rfl, himage⟩

/-- Neither can the image be taken for an option, nor a part of a key for one of its value. -/
def Plain (w : Description) : Prop :=
  w.image.toList.head? ≠ some '-' ∧ ∀ e ∈ w.env, '=' ∉ e.1.toList

theorem pairs_inj {ps qs : List (String × String)} (hp : ∀ e ∈ ps, '=' ∉ e.1.toList)
    (hq : ∀ e ∈ qs, '=' ∉ e.1.toList)
    (h : (ps.map fun e => e.1 ++ "=" ++ e.2) = qs.map fun e => e.1 ++ "=" ++ e.2) : ps = qs := by
  induction ps generalizing qs with
  | nil => exact (List.map_eq_nil_iff.1 h.symm).symm
  | cons p ps ih =>
    cases qs with
    | nil => cases h
    | cons q qs =>
      obtain ⟨hp, hps⟩ := List.forall_mem_cons.1 hp
      obtain ⟨hq, hqs⟩ := List.forall_mem_cons.1 hq
      obtain ⟨hword, hwords⟩ := List.cons.inj h
      obtain ⟨hkey, hvalue⟩ := joined_inj hp hq hword
      rw [Prod.ext hkey hvalue, ih hps hqs hwords]

theorem Describes.unique (h : Describes ss w) (h' : Describes ss w') (hw : Plain w)
    (hw' : Plain w') (himage : w.image = w'.image) (hargs : w.args = w'.args) : w = w' := by
  have hbytes : Function.Injective fun n => Decimal.text n ++ "b" := fun m n hmn =>
    Decimal.text_injective ((String.append_left_inj "b").1 hmn)
  have hoverride := toList_injective (h.override.symm.trans h'.override)
  have henv := pairs_inj hw.2 hw'.2 (h.env.symm.trans h'.env)
  have hports := List.map_injective_iff.2 Decimal.text_injective (h.ports.symm.trans h'.ports)
  have hmemory := Option.map_injective hbytes (toList_injective (h.memory.symm.trans h'.memory))
  have hcpus := toList_injective (h.cpus.symm.trans h'.cpus)
  have hcapabilities := h.capabilities.symm.trans h'.capabilities
  have hprivileged := Bool.eq_iff_iff.2 (h.privileged.symm.trans h'.privileged)
  have hhostPid := Bool.eq_iff_iff.2 (h.hostPid.symm.trans h'.hostPid)
  have hunique : Relator.RightUnique fun text : String => Kind.UserText text.toList :=
    fun _ _ _ => Kind.UserText.unique
  have huser := toList_injective (hunique.forall₂ h.user h'.user)
  obtain ⟨dir, texts, hvolumes, hmounts⟩ := h.mounts
  obtain ⟨dir', texts', hvolumes', hmounts'⟩ := h'.mounts
  obtain ⟨-, rfl⟩ := List.cons.inj (hvolumes.symm.trans hvolumes')
  have hunique : Relator.RightUnique Kind.MountText := fun _ _ _ => Kind.MountText.unique
  have hmounts := hunique.forall₂ hmounts hmounts'
  cases w
  cases w'
  simp_all

theorem Conveys.unique {arguments : List String} (h : Conveys arguments w)
    (h' : Conveys arguments w') (hw : Plain w) (hw' : Plain w') : w = w' := by
  obtain ⟨words, ss, rfl, hspells, hd⟩ := h
  obtain ⟨words', ss', heq, hspells', hd'⟩ := h'
  obtain ⟨rfl, himage, hargs⟩ := hspells.unique hspells' hw.1 hw'.1 (List.cons.inj heq).2
  exact hd.unique hd' hw hw' himage hargs

def named (name : String) (values : List String) : List Setting :=
  values.map fun v => ⟨name, some v⟩

def switched (name : String) (set : Bool) : List Setting := if set then [⟨name, none⟩] else []

theorem valuesOf_append (name : String) (ss ss' : List Setting) :
    valuesOf name (ss ++ ss') = valuesOf name ss ++ valuesOf name ss' := List.filterMap_append

theorem valuesOf_named (name name' : String) (values : List String) :
    valuesOf name (named name' values) = if name' = name then values else [] := by
  rw [valuesOf, named, List.filterMap_map]
  by_cases h : name' = name <;> simp [h]

theorem valuesOf_switched (name name' : String) (set : Bool) :
    valuesOf name (switched name' set) = [] := by
  cases set <;> simp [valuesOf, switched]

theorem mem_switched (name name' : String) (set : Bool) :
    ⟨name, none⟩ ∈ switched name' set ↔ name = name' ∧ set = true := by
  cases set <;> simp [switched]

theorem not_mem_named (name name' : String) (values : List String) :
    ⟨name, none⟩ ∉ named name' values := by
  simp [named]

theorem Spells.append (h : Spells words ss) (h' : Spells words' ss') :
    Spells (words ++ words') (ss ++ ss') := by
  induction h with
  | nil => exact h'
  | cons hs _ ih =>
    rw [List.append_assoc]
    exact .cons hs ih

theorem spells_switched (name : String) (set : Bool) (hn : isOption name) (hs : name ∈ switches) :
    Spells (flag name set) (switched name set) := by
  cases set with
  | false => exact .nil
  | true => exact .cons (.switch hn hs) .nil

theorem spells_joined (name : String) (values : List String) (hn : isOption name) :
    Spells (values.map fun v => name ++ "=" ++ v) (named name values) := by
  induction values with
  | nil => exact .nil
  | cons v values ih => exact .cons (.joined v hn) ih

theorem spells_each (name : String) (values : List String) (hn : isOption name)
    (hs : name ∉ switches) : Spells (each name values) (named name values) := by
  induction values with
  | nil => exact .nil
  | cons v values ih => exact .cons (.apart v hn hs) ih

theorem setting_eq (name : String) (value : Option String) :
    setting name value = value.toList.map fun v => name ++ "=" ++ v := by
  cases value <;> rfl

def settingsOf (l : Launch) : List Setting :=
  let container := containerName l.scope.name l.name
  let o := l.options
  switched "--rm" true ++ named "--net" [l.scope.name] ++ named "--name" [container] ++
  named "--hostname" [container] ++ named "--label" [scopeLabel l.scope.name] ++
  named "-v" [l.scope.dir ++ ":" ++ l.scope.dir ++ ":z"] ++
  named "-e" (o.env.entries.map fun e => e.1 ++ "=" ++ e.2) ++
  named "--user" o.user.toList ++
  named "-p" (l.ports.values.map Decimal.text) ++
  named "-v" o.volumes ++
  named "--memory" (o.limits.memory.map fun n => Decimal.text n ++ "b").toList ++
  named "--cpus" (o.limits.cpus.map Decimal.plain).toList ++
  switched "--privileged" o.privileged ++
  named "--cap-add" o.capabilities ++
  named "--pid" (if o.pidMode = .host then ["host"] else []) ++
  named "--entrypoint" (Kind.commandParts o.command).1.toList

theorem imageArguments_eq (image : String) (c : Option Command) :
    imageArguments image c = setting "--entrypoint" (Kind.commandParts c).1 ++
      image :: (Kind.commandParts c).2 := by
  cases c with
  | none => rfl
  | some c => by_cases h : c.noEntrypoint <;> simp [imageArguments, Kind.commandParts, setting, h]

theorem spells_runArguments (l : Launch) : ∃ words,
    runArguments l =
      "run" :: (words ++ l.options.image :: (Kind.commandParts l.options.command).2) ∧
    Spells words (settingsOf l) := by
  refine ⟨_, ?_, (spells_switched "--rm" true (by decide) (by decide))
    |>.append (spells_joined "--net" _ (by decide))
    |>.append (spells_joined "--name" _ (by decide))
    |>.append (spells_joined "--hostname" _ (by decide))
    |>.append (spells_each "--label" _ (by decide) (by decide))
    |>.append (spells_each "-v" _ (by decide) (by decide))
    |>.append (spells_each "-e" _ (by decide) (by decide))
    |>.append (spells_joined "--user" _ (by decide))
    |>.append (spells_each "-p" _ (by decide) (by decide))
    |>.append (spells_each "-v" _ (by decide) (by decide))
    |>.append (spells_joined "--memory" _ (by decide))
    |>.append (spells_joined "--cpus" _ (by decide))
    |>.append (spells_switched "--privileged" _ (by decide) (by decide))
    |>.append (spells_joined "--cap-add" _ (by decide))
    |>.append (spells_joined "--pid" _ (by decide))
    |>.append (spells_joined "--entrypoint" _ (by decide))⟩
  by_cases h : l.options.pidMode = .host <;>
    simp [runArguments, imageArguments_eq, setting_eq, flag, each, h]

theorem describes_settingsOf {user : Option Kind.User} {specs : List Kind.VolumeSpec}
    (hu : List.Forall₂ (fun text => Kind.UserText text.toList) l.options.user.toList user.toList)
    (hv : List.Forall₂ (fun text => Kind.VolumeText text.toList) l.options.volumes specs) :
    Describes (settingsOf l) (.ofLaunch l user specs) := by
  constructor
  case user =>
    simpa [Description.ofLaunch, settingsOf, valuesOf_append, valuesOf_named, valuesOf_switched]
      using hu
  case mounts =>
    refine ⟨l.scope.dir, l.options.volumes, ?_, mountTexts_ofLaunch hv user⟩
    simp [settingsOf, valuesOf_append, valuesOf_named, valuesOf_switched]
  case privileged => simp [Description.ofLaunch, settingsOf, mem_switched, not_mem_named]
  all_goals
    simp [Description.ofLaunch, settingsOf, valuesOf_append, valuesOf_named, valuesOf_switched]

theorem conveys_runArguments {user : Option Kind.User} {specs : List Kind.VolumeSpec}
    (hu : List.Forall₂ (fun text => Kind.UserText text.toList) l.options.user.toList user.toList)
    (hv : List.Forall₂ (fun text => Kind.VolumeText text.toList) l.options.volumes specs) :
    Conveys (runArguments l) (.ofLaunch l user specs) := by
  obtain ⟨words, hwords, hspells⟩ := spells_runArguments l
  exact ⟨words, settingsOf l, hwords, hspells, describes_settingsOf hu hv⟩

end Testbed.Docker
