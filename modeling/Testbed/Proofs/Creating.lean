import Testbed.Proofs.Directories
import Testbed.Proofs.Teardown
import Testbed.StandIn.Backend
import Testbed.StandIn.Network

/-!
Creating an environment. A creation that fails does so before it has any effect, or before it has
turned to the backend, or by closing what it has made so far; in the last case the scope is
destroyed and the directory is given up like at any other close.
-/
namespace Testbed

open Environment

variable {σ κ : Type} {w w' : World σ} {f : Failure} {base dir : String}

structure Config.Valid (c : Config) : Prop where
  name : isLabel c.name = true
  retries : 0 < c.readyBackoff.retries
  delays : c.readyBackoff.min.nanos ≤ c.readyBackoff.max.nanos

def Config.scope (c : Config) (temp suffix : String) : Scope :=
  ⟨c.name, directory (c.baseDir.getD temp) c.name suffix, c.verbose⟩

theorem Policy.check_eq_error {p : Policy} (h : p.check = .error f) :
    ∃ cause, f = .config cause := by
  unfold Policy.check at h
  split at h
  · exact ⟨_, (Except.error.inj h).symm⟩
  · split at h
    · exact ⟨_, (Except.error.inj h).symm⟩
    · cases h

namespace Environment

theorem checkConfig_of_valid {c : Config} (h : c.Valid) : checkConfig c = .ok () := by
  unfold checkConfig checkName
  rw [if_pos h.name]
  exact (Policy.check_eq_ok_iff _).mpr ⟨h.retries, h.delays⟩

theorem checkConfig_of_invalid {c : Config} (h : ¬ c.Valid) :
    ∃ cause, checkConfig c = .error (.config cause) := by
  unfold checkConfig checkName
  by_cases hname : isLabel c.name = true
  · cases hp : c.readyBackoff.check with
    | ok u =>
      obtain ⟨hretries, hdelays⟩ := (Policy.check_eq_ok_iff _).mp hp
      exact absurd ⟨hname, hretries, hdelays⟩ h
    | error f =>
      obtain ⟨cause, rfl⟩ := Policy.check_eq_error hp
      rw [if_pos hname]
      exact ⟨cause, rfl⟩
  · exact ⟨.badName "environment" c.name, by simp [hname, bind, Except.bind]⟩

theorem makeDirectory_cases (base dir : String) (w : World σ) :
    (∃ files files' : Files, files.makeDirectory dir = .ok files' ∧
      makeDirectory base dir w = (.ok (), { w with files := files' })) ∨
    ∃ cause files, makeDirectory base dir w = (.error (.io base cause), { w with files }) := by
  unfold makeDirectory World.makeDirectories
  rcases World.onFiles_cases base (·.makeDirectories base) w with ⟨files, -, hbase⟩ | ⟨cause, hbase⟩
  · rw [Act.bind_ok hbase]
    rcases World.onFiles_cases base (·.makeDirectory dir) { w with files } with
      ⟨files', hdir, heq⟩ | ⟨cause, heq⟩
    · exact .inl ⟨files, files', hdir, heq⟩
    · exact .inr ⟨cause, files, heq⟩
  · rw [Act.bind_error hbase]
    exact .inr ⟨cause, w.files, rfl⟩

theorem makeDirectory_eq_ok (h : makeDirectory base dir w = (.ok (), w')) :
    ∃ files : Files, files.makeDirectory dir = .ok w'.files := by
  rcases makeDirectory_cases base dir w with ⟨files, files', hdir, heq⟩ | ⟨cause, files, heq⟩
  · rw [heq] at h
    cases h
    exact ⟨files, hdir⟩
  · rw [heq] at h
    cases h

theorem makeDirectory_eq_error (h : makeDirectory base dir w = (.error f, w')) :
    (∃ cause, f = .io base cause) ∧ w' = { w with files := w'.files } := by
  rcases makeDirectory_cases base dir w with ⟨files, files', hdir, heq⟩ | ⟨cause, files, heq⟩
  · rw [heq] at h
    cases h
  · rw [heq] at h
    cases h
    exact ⟨⟨cause, rfl⟩, rfl⟩

variable (b : Backend σ κ) (net : Network σ)

theorem giveUp_eq {e : Environment σ κ} (ho : e.closed = false) (hs : e.started = [])
    (hc : e.closers = []) (f : Failure) :
    e.giveUp b net f =
      ⟨f, disposed b e e.world, e.history ++ [.scopeDestroyed, .released !e.config.keepDir]⟩ := by
  have hclose : close b net e = (destroyScope b e.sealed).release := by
    rw [close_of_open b net ho, hs, runClosers, hc]
    rfl
  obtain ⟨hworld, hhist⟩ := release_destroyScope b (e := e) (k := e.sealed) rfl rfl
  unfold giveUp
  dsimp only
  rw [hclose, hworld, hhist]
  rfl

structure Cleared (c : Config) (scope : Scope) (w w' : World σ) : Prop where
  world : w' = { b.destroyScope scope w with files := w'.files }
  kept : c.keepDir = true → w'.files = (b.destroyScope scope w).files
  gone : c.keepDir = false → w'.files.exists? scope.dir = false

theorem cleared_disposed {e : Environment σ κ} {w₁ : World σ}
    (hdir : makeDirectory base e.scope.dir w = (.ok (), w₁)) (w' : World σ) :
    Cleared b e.config e.scope w' (disposed b e w') where
  world := rfl
  kept hk := by simp [disposed, hk]
  gone hk := by
    obtain ⟨files, hmade⟩ := makeDirectory_eq_ok hdir
    have hgone := Files.exists?_remove_of_makeDirectory hmade (b.destroyScope e.scope w').files
    simpa [disposed, hk] using hgone

variable (c : Config) (temp suffix : String) (w : World σ)

def makeScopeDir : Act (World σ) Unit :=
  makeDirectory (c.baseDir.getD temp) (c.scope temp suffix).dir

def makeLogsDir : Act (World σ) Unit := World.makeDirectories (c.scope temp suffix).logsDir

/-- What creating an environment comes to, by how far it gets. -/
structure Construction : Prop where
  invalid : ¬ c.Valid → ∃ cause, create b net c temp suffix w = .error ⟨.config cause, w, []⟩
  unmade : c.Valid → ∀ f w₁, makeScopeDir c temp suffix w = (.error f, w₁) →
    (∃ cause, f = .io (c.baseDir.getD temp) cause) ∧ w₁ = { w with files := w₁.files } ∧
      create b net c temp suffix w = .error ⟨f, w₁, []⟩
  made : ∀ w₁, makeScopeDir c temp suffix w = (.ok (), w₁) →
    w₁.files.exists? (c.scope temp suffix).dir = true
  unlogged : c.Valid → ∀ w₁ f w₂, makeScopeDir c temp suffix w = (.ok (), w₁) →
    makeLogsDir c temp suffix w₁ = (.error f, w₂) →
    (∃ cause, f = .io (c.scope temp suffix).logsDir cause) ∧
      ∃ w₃, Cleared b c (c.scope temp suffix) w₂ w₃ ∧
        create b net c temp suffix w = .error ⟨f, w₃, [.scopeDestroyed, .released !c.keepDir]⟩
  refused : c.Valid → ∀ w₁ w₂ f w₃, makeScopeDir c temp suffix w = (.ok (), w₁) →
    makeLogsDir c temp suffix w₁ = (.ok (), w₂) →
    b.createScope (c.scope temp suffix) w₂ = (.error f, w₃) →
    ∃ w₄, Cleared b c (c.scope temp suffix) w₃ w₄ ∧
      create b net c temp suffix w =
        .error ⟨f, w₄, [.scopeCreated false, .scopeDestroyed, .released !c.keepDir]⟩
  granted : ∀ e, create b net c temp suffix w = .ok e ↔
    c.Valid ∧ ∃ w₁ w₂ w₃, makeScopeDir c temp suffix w = (.ok (), w₁) ∧
      makeLogsDir c temp suffix w₁ = (.ok (), w₂) ∧
      b.createScope (c.scope temp suffix) w₂ = (.ok (), w₃) ∧
      e = { initial c (c.scope temp suffix).dir w₃ with history := [.scopeCreated true] }

variable {c temp suffix w} {w₁ w₂ w₃ : World σ}

theorem create_of_unmade (hc : c.Valid) (hdir : makeScopeDir c temp suffix w = (.error f, w₁)) :
    create b net c temp suffix w = .error ⟨f, w₁, []⟩ := by
  unfold makeScopeDir Config.scope at hdir
  unfold create
  rw [checkConfig_of_valid hc]
  dsimp only at hdir ⊢
  rw [hdir]

theorem create_of_made (hc : c.Valid) (hdir : makeScopeDir c temp suffix w = (.ok (), w₁)) :
    create b net c temp suffix w = prepare b net (initial c (c.scope temp suffix).dir w₁) := by
  unfold makeScopeDir at hdir
  unfold Config.scope at hdir ⊢
  unfold create
  rw [checkConfig_of_valid hc]
  dsimp only at hdir ⊢
  rw [hdir]

theorem initial_scope (c : Config) (temp suffix : String) (w : World σ) :
    (initial (κ := κ) c (c.scope temp suffix).dir w).scope = c.scope temp suffix := rfl

theorem onWorld_initial (c : Config) (dir : String) {x : Act (World σ) Unit}
    {r : Except Failure Unit} (h : x w₁ = (r, w₂)) :
    onWorld x (initial (κ := κ) c dir w₁) = (r, initial c dir w₂) := by
  unfold onWorld initial
  rw [h]

theorem prepare_of_unlogged (hlogs : makeLogsDir c temp suffix w₁ = (.error f, w₂)) :
    prepare b net (initial c (c.scope temp suffix).dir w₁) =
      .error (giveUp b net f (initial c (c.scope temp suffix).dir w₂)) := by
  rw [makeLogsDir] at hlogs
  unfold prepare
  rw [initial_scope, onWorld_initial c _ hlogs]

theorem prepare_of_logged (hlogs : makeLogsDir c temp suffix w₁ = (.ok (), w₂)) :
    prepare b net (initial c (c.scope temp suffix).dir w₁) =
      match b.createScope (c.scope temp suffix) w₂ with
      | (.error f, w₃) =>
        .error (giveUp b net f
          ((initial c (c.scope temp suffix).dir w₃).record (.scopeCreated false)))
      | (.ok (), w₃) =>
        .ok { initial c (c.scope temp suffix).dir w₃ with history := [.scopeCreated true] } := by
  rw [makeLogsDir] at hlogs
  unfold prepare
  rw [initial_scope, onWorld_initial c _ hlogs]
  dsimp only
  rw [initial_scope]
  rcases hs : b.createScope (c.scope temp suffix) w₂ with ⟨f | ⟨⟩, w₃⟩
  · rw [onWorld_initial c _ hs]
  · rw [onWorld_initial c _ hs]
    rfl

theorem create_of_invalid (hc : ¬ c.Valid) :
    ∃ cause, create b net c temp suffix w = .error ⟨.config cause, w, []⟩ := by
  obtain ⟨cause, heq⟩ := checkConfig_of_invalid hc
  refine ⟨cause, ?_⟩
  unfold create
  rw [heq]

theorem create_of_unlogged (hc : c.Valid) (hdir : makeScopeDir c temp suffix w = (.ok (), w₁))
    (hlogs : makeLogsDir c temp suffix w₁ = (.error f, w₂)) :
    create b net c temp suffix w = .error ⟨f,
      disposed b (initial c (c.scope temp suffix).dir w₂) w₂,
      [.scopeDestroyed, .released !c.keepDir]⟩ := by
  rw [create_of_made b net hc hdir, prepare_of_unlogged b net hlogs, giveUp_eq b net rfl rfl rfl]
  rfl

theorem create_of_refused (hc : c.Valid) (hdir : makeScopeDir c temp suffix w = (.ok (), w₁))
    (hlogs : makeLogsDir c temp suffix w₁ = (.ok (), w₂))
    (hscope : b.createScope (c.scope temp suffix) w₂ = (.error f, w₃)) :
    create b net c temp suffix w = .error ⟨f,
      disposed b (initial c (c.scope temp suffix).dir w₃) w₃,
      [.scopeCreated false, .scopeDestroyed, .released !c.keepDir]⟩ := by
  rw [create_of_made b net hc hdir, prepare_of_logged b net hlogs, hscope]
  dsimp only
  rw [giveUp_eq b net rfl rfl rfl]
  rfl

theorem create_of_granted (hc : c.Valid) (hdir : makeScopeDir c temp suffix w = (.ok (), w₁))
    (hlogs : makeLogsDir c temp suffix w₁ = (.ok (), w₂))
    (hscope : b.createScope (c.scope temp suffix) w₂ = (.ok (), w₃)) :
    create b net c temp suffix w =
      .ok { initial c (c.scope temp suffix).dir w₃ with history := [.scopeCreated true] } := by
  rw [create_of_made b net hc hdir, prepare_of_logged b net hlogs, hscope]

theorem granted_of_create {e : Environment σ κ} (h : create b net c temp suffix w = .ok e) :
    c.Valid ∧ ∃ w₁ w₂ w₃, makeScopeDir c temp suffix w = (.ok (), w₁) ∧
      makeLogsDir c temp suffix w₁ = (.ok (), w₂) ∧
      b.createScope (c.scope temp suffix) w₂ = (.ok (), w₃) := by
  by_cases hc : c.Valid
  · rcases hdir : makeScopeDir c temp suffix w with ⟨f | ⟨⟩, w₁⟩
    · cases h.symm.trans (create_of_unmade b net hc hdir)
    · rcases hlogs : makeLogsDir c temp suffix w₁ with ⟨f | ⟨⟩, w₂⟩
      · cases h.symm.trans (create_of_unlogged b net hc hdir hlogs)
      · rcases hscope : b.createScope (c.scope temp suffix) w₂ with ⟨f | ⟨⟩, w₃⟩
        · cases h.symm.trans (create_of_refused b net hc hdir hlogs hscope)
        · exact ⟨hc, w₁, w₂, w₃, rfl, hlogs, hscope⟩
  · obtain ⟨cause, heq⟩ : ∃ cause, create b net c temp suffix w = .error ⟨.config cause, w, []⟩ :=
      create_of_invalid b net hc
    cases h.symm.trans heq

theorem create_construction (c : Config) (temp suffix : String) (w : World σ) :
    Construction b net c temp suffix w where
  invalid hc := create_of_invalid b net hc
  unmade hc f w₁ hdir := by
    obtain ⟨hf, hw⟩ := makeDirectory_eq_error hdir
    exact ⟨hf, hw, create_of_unmade b net hc hdir⟩
  made w₁ hdir := by
    obtain ⟨files, hmade⟩ := makeDirectory_eq_ok hdir
    exact (Files.makeDirectory_spec hmade).2
  unlogged hc w₁ f w₂ hdir hlogs := by
    have hcause : ∃ cause, f = .io (c.scope temp suffix).logsDir cause := by
      rcases World.onFiles_cases (c.scope temp suffix).logsDir
        (·.makeDirectories (c.scope temp suffix).logsDir) w₁ with ⟨files, -, heq⟩ | ⟨cause, heq⟩
      · cases heq.symm.trans hlogs
      · cases heq.symm.trans hlogs
        exact ⟨cause, rfl⟩
    exact ⟨hcause, _, cleared_disposed b (e := initial c (c.scope temp suffix).dir w₂) hdir w₂,
      create_of_unlogged b net hc hdir hlogs⟩
  refused hc w₁ w₂ f w₃ hdir hlogs hscope :=
    ⟨_, cleared_disposed b (e := initial c (c.scope temp suffix).dir w₃) hdir w₃,
      create_of_refused b net hc hdir hlogs hscope⟩
  granted e := by
    constructor
    · intro h
      obtain ⟨hc, w₁, w₂, w₃, hdir, hlogs, hscope⟩ := granted_of_create b net h
      have heq := h.symm.trans (create_of_granted b net hc hdir hlogs hscope)
      exact ⟨hc, w₁, w₂, w₃, hdir, hlogs, hscope, Except.ok.inj heq⟩
    · rintro ⟨hc, w₁, w₂, w₃, hdir, hlogs, hscope, rfl⟩
      exact create_of_granted b net hc hdir hlogs hscope

theorem create_construction_refused :
    ∃ w : World StandIn.State, ∃ w',
      create StandIn.backend StandIn.network (.ofName "bed") "/tmp" "Ab3dE9" w =
        .error ⟨.config (.other "scripted create failure"), w',
          [.scopeCreated false, .scopeDestroyed, .released true]⟩ ∧
      w'.files.exists? "/tmp/rigging_bed_Ab3dE9" = false := by
  let c : Config := .ofName "bed"
  let w : World StandIn.State := ⟨.empty, .empty, { StandIn.State.empty with
    staging := { StandIn.Staging.empty with createFails := true } }⟩
  let w₁ := (makeScopeDir c "/tmp" "Ab3dE9").after w
  let w₂ := (makeLogsDir c "/tmp" "Ab3dE9").after w₁
  have hc : c.Valid := ⟨by decide, by decide, by decide⟩
  have hdir : makeScopeDir c "/tmp" "Ab3dE9" w = (.ok (), w₁) :=
    Act.eq_ok_of_isOk (by decide +kernel)
  have hlogs : makeLogsDir c "/tmp" "Ab3dE9" w₁ = (.ok (), w₂) :=
    Act.eq_ok_of_isOk (by decide +kernel)
  have hscope : StandIn.backend.createScope (c.scope "/tmp" "Ab3dE9") w₂ =
      (.error (.config (.other "scripted create failure")), w₂) := by
    have hfails : w₂.rest.staging.createFails = true := by decide +kernel
    simp [StandIn.backend, StandIn.createScope, hfails]
  obtain ⟨w', hcleared, heq⟩ := (create_construction StandIn.backend StandIn.network c "/tmp"
    "Ab3dE9" w).refused hc w₁ w₂ _ w₂ hdir hlogs hscope
  have hname : (c.scope "/tmp" "Ab3dE9").dir = "/tmp/rigging_bed_Ab3dE9" := by decide +kernel
  exact ⟨w, w', heq, hname ▸ hcleared.gone rfl⟩

end Environment

end Testbed
