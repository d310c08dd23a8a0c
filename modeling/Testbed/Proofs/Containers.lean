import Testbed.Proofs.FailedLaunch
import Testbed.Proofs.Labels

/-!
The containers that docker is told to act on. All that is asked of docker for a workload is about
one container, the one named after the workload's scope and runnable. Since the two names are
joined by a hyphen, and either may contain hyphens, workloads of two scopes can share a container.
-/
namespace Testbed

variable {σ κ : Type}

inductive Demand where
  | halt (how : Halt)
  | exec (command : Command) (sinks : ExecSinks)

namespace Backend

variable (b : Backend σ κ)

def meet (workload : Workload κ) : Demand → World σ → World σ
  | .halt how, w => (b.halt how workload w).2
  | .exec c sinks, w => (b.exec workload c sinks w).2

def meetAll (workload : Workload κ) (demands : List Demand) (w : World σ) : World σ :=
  demands.foldl (fun w demand => b.meet workload demand w) w

def life (l : Launch) (demands : List Demand) (w : World σ) : World σ :=
  match b.launch l w with
  | (⟨.error _, _⟩, w) => w
  | (⟨.ok workload, _⟩, w) => b.meetAll workload demands w

end Backend

namespace Docker

/-- The second scope is the first one with a label appended that the first runnable starts with. -/
def Straddles (scope runnable scope' runnable' : String) : Prop :=
  ∃ label, DnsLabel label ∧ scope' = scope ++ "-" ++ label ∧
    runnable = label ++ "-" ++ runnable'

section Names

variable {s r s' r' : String}

theorem toList_containerName (s r : String) :
    (containerName s r).toList = s.toList ++ '-' :: r.toList := by
  simp [containerName]

theorem containerName_of_straddles (h : Straddles s r s' r') :
    containerName s r = containerName s' r' := by
  obtain ⟨label, -, rfl, rfl⟩ := h
  simp only [containerName, String.append_assoc]

theorem dnsLabel_between {before label after : List Char} (hs : DnsLabel s) (hr : DnsLabel r)
    (hend : s.toList = before ++ '-' :: label) (hbegin : r.toList = label ++ '-' :: after) :
    DnsLabel (String.ofList label) := by
  have hne : label ≠ [] := by
    rintro rfl
    exact hs.last (by simp [hend])
  have hfirst : r.toList.head? = label.head? := by
    rw [hbegin, List.head?_append, Option.or_of_isSome (List.isSome_head?.mpr hne)]
  have hlast : s.toList.getLast? = label.getLast? := by
    rw [hend, List.getLast?_append, List.getLast?_cons]
    cases hl : label.getLast? with
    | none => exact absurd (List.getLast?_eq_none_iff.mp hl) hne
    | some c => rfl
  have hlength : s.toList.length = before.length + (label.length + 1) := by simp [hend]
  have hshort := hs.short
  constructor <;> rw [String.toList_ofList]
  · exact List.length_pos_iff.mpr hne
  · omega
  · intro c hc
    exact hs.chars c (by simp [hend, hc])
  · exact hfirst ▸ hr.first
  · exact hlast ▸ hs.last

theorem eq_or_straddles (hr : DnsLabel r) (hs' : DnsLabel s') {middle : List Char}
    (hs : s'.toList = s.toList ++ middle) (hm : '-' :: r.toList = middle ++ '-' :: r'.toList) :
    (s = s' ∧ r = r') ∨ Straddles s r s' r' := by
  cases middle with
  | nil =>
    rw [List.append_nil] at hs
    exact .inl ⟨String.toList_injective hs.symm, String.toList_injective (List.cons.inj hm).2⟩
  | cons c label =>
    obtain ⟨rfl, htail⟩ := List.cons.inj hm
    rw [List.append_eq] at htail
    refine .inr ⟨String.ofList label, dnsLabel_between hs' hr hs htail, ?_, ?_⟩
    · exact String.toList_injective (by simp [hs])
    · exact String.toList_injective (by simp [htail])

theorem containerName_eq_iff (hs : DnsLabel s) (hr : DnsLabel r) (hs' : DnsLabel s')
    (hr' : DnsLabel r') :
    containerName s r = containerName s' r' ↔
      (s = s' ∧ r = r') ∨ Straddles s r s' r' ∨ Straddles s' r' s r := by
  constructor
  · intro h
    have hlist := congrArg String.toList h
    rw [toList_containerName, toList_containerName] at hlist
    rcases List.append_eq_append_iff.mp hlist with ⟨middle, hm, hrest⟩ | ⟨middle, hm, hrest⟩
    · exact (eq_or_straddles hr hs' hm hrest).imp_right .inl
    · rcases eq_or_straddles hr' hs hm hrest with ⟨rfl, rfl⟩ | h
      · exact .inl ⟨rfl, rfl⟩
      · exact .inr (.inr h)
  · rintro (⟨rfl, rfl⟩ | h | h)
    · rfl
    · exact containerName_of_straddles h
    · exact (containerName_of_straddles h).symm

end Names

def addressee : List String → Option String
  | "run" :: args => StandIn.startedContainer args
  | "inspect" :: args | "stop" :: args | "kill" :: args | "rm" :: args => args.getLast?
  | "port" :: container :: _ | "exec" :: container :: _ => some container
  | _ => none

/-- A tool is used to have something done to a container, or to start it. -/
def Addresses (t : Tool) (container : String) (u : Use) : Prop :=
  ∃ args, u.invocation = t.invocation args ∧ addressee args = some container

theorem Addresses.unique {t : Tool} {c c' : String} {u : Use} (h : Addresses t c u)
    (h' : Addresses t c' u) : c = c' := by
  obtain ⟨args, hu, hc⟩ := h
  obtain ⟨args', hu', hc'⟩ := h'
  rw [hu] at hu'
  simp only [Tool.invocation, Invocation.mk.injEq, List.append_cancel_left_eq, true_and] at hu'
  rw [hu', hc'] at hc
  exact (Option.some.inj hc).symm

theorem addressee_runArguments (l : Launch) :
    addressee (runArguments l) = some (containerName l.scope.name l.name) := by
  simp [runArguments, addressee, StandIn.startedContainer, List.findSome?]

theorem addressee_haltArguments (container : String) (how : Halt) :
    addressee (Engine.haltArguments container how) = some container := by
  cases how <;> rfl

section Workloads

variable (ts : Tools σ) (d : Engine)

theorem launch_addresses (l : Launch) (w : World (σ × List Use)) :
    let own := containerName l.scope.name l.name
    UsesOnly (Addresses d.tool own) w (d.launch ts.recorded l w).2 ∧
      ∀ workload, (d.launch ts.recorded l w).1 = .ok workload → workload.handle.name = own := by
  intro own
  have hprepare : UsesOnly (Addresses d.tool own) w (d.prepare l w).2 :=
    .of_eq (World.uses_appendLog w _ _ _)
  rcases hp : d.prepare l w with ⟨e | ⟨⟩, w₁⟩ <;> rw [hp] at hprepare
  · rw [Engine.launch_unprepared hp]
    exact ⟨hprepare, fun _ h => nomatch h⟩
  have hstart : UsesOnly (Addresses d.tool own) w₁ (d.start ts.recorded l w₁).2 :=
    .of_concat (Tool.uses_spawn ts d.tool (runArguments l) w₁ (logFile l.scope.dir l.name))
      ⟨runArguments l, rfl, addressee_runArguments l⟩
  rcases hs : d.start ts.recorded l w₁ with ⟨e | p, w₂⟩ <;> rw [hs] at hstart
  · rw [Engine.launch_unstarted hp hs]
    exact ⟨hprepare.trans hstart, fun _ h => nomatch h⟩
  have hbring : UsesOnly (Addresses d.tool own) w₂
      (d.bringUp ts.recorded l (Engine.launched l p) w₂).2 :=
    Engine.bringUp_uses ts d l ⟨_, rfl, rfl⟩ (fun _ => ⟨_, rfl, rfl⟩) w₂
  rcases hb : d.bringUp ts.recorded l (Engine.launched l p) w₂ with ⟨e | ports, w₃⟩ <;>
    rw [hb] at hbring
  · have hremove : UsesOnly (Addresses d.tool own) w₃
        (d.removeContainer ts.recorded (Engine.launched l p) w₃) :=
      .of_concat (Engine.uses_removeContainer ts d (Engine.launched l p) w₃) ⟨_, rfl, rfl⟩
    rw [Engine.launch_failed hp hs hb]
    exact ⟨((hprepare.trans hstart).trans hbring).trans hremove, fun _ h => nomatch h⟩
  · rw [Engine.launch_done hp hs hb]
    exact ⟨(hprepare.trans hstart).trans hbring, fun _ h => Except.ok.inj h ▸ rfl⟩

theorem halt_addresses (how : Halt) (c : Container) (w : World (σ × List Use)) :
    UsesOnly (Addresses d.tool c.name) w (d.halt ts.recorded how c w).2 := by
  have hrun : UsesOnly (Addresses d.tool c.name) w
      (d.tool.run ts.recorded (Engine.haltArguments c.name how) w).2 :=
    .of_concat (Tool.uses_run ts d.tool _ w) ⟨_, rfl, addressee_haltArguments c.name how⟩
  unfold Engine.halt
  rcases hr : d.tool.run ts.recorded (Engine.haltArguments c.name how) w with ⟨e | ⟨⟩, w₁⟩ <;>
    rw [hr] at hrun
  · have hpoll : (ts.recorded.poll c.process w₁).2.uses = w₁.uses := rfl
    dsimp only
    rcases hp : ts.recorded.poll c.process w₁ with ⟨_ | ending, w₂⟩ <;> rw [hp] at hpoll
    · exact hrun.trans (.of_eq hpoll)
    · exact hrun.trans (.of_eq hpoll)
  · exact hrun.trans (.of_eq rfl)

theorem exec_addresses (c : Container) (command : Command) (sinks : ExecSinks)
    (w : World (σ × List Use)) :
    UsesOnly (Addresses d.tool c.name) w (d.exec ts.recorded c command sinks w).2 := by
  unfold Engine.exec
  split
  · exact .of_eq rfl
  · have huses : (d.tool.exec ts.recorded ("exec" :: c.name :: command.argv) sinks w).2.uses =
        w.uses ++ [.call (d.tool.invocation ("exec" :: c.name :: command.argv))] := by
      rw [Tool.after_exec]
      rfl
    exact .of_concat huses ⟨_, rfl, rfl⟩

theorem meetAll_addresses (workload : Workload Container) (demands : List Demand)
    (w : World (σ × List Use)) :
    UsesOnly (Addresses d.tool workload.handle.name) w
      ((backend ts.recorded d).meetAll workload demands w) := by
  induction demands generalizing w with
  | nil => exact .of_eq rfl
  | cons demand demands ih =>
    have hmeet : UsesOnly (Addresses d.tool workload.handle.name) w
        ((backend ts.recorded d).meet workload demand w) := by
      cases demand with
      | halt how => exact halt_addresses ts d how workload.handle w
      | exec c sinks => exact exec_addresses ts d workload.handle c sinks w
    exact hmeet.trans (ih _)

theorem life_addresses (l : Launch) (demands : List Demand) (w : World (σ × List Use)) :
    UsesOnly (Addresses d.tool (containerName l.scope.name l.name)) w
      ((backend ts.recorded d).life l demands w) := by
  obtain ⟨huses, hname⟩ := launch_addresses ts d l w
  unfold Backend.life
  rcases hl : d.launch ts.recorded l w with ⟨result, w₁⟩
  have hlaunch : (backend ts.recorded d).launch l w = (⟨result, false⟩, w₁) := by
    simp only [backend, hl]
  rw [hl] at huses hname
  rw [hlaunch]
  cases result with
  | error e => exact huses
  | ok workload =>
    have hall := meetAll_addresses ts d workload demands w₁
    rw [hname workload rfl] at hall
    exact huses.trans hall

end Workloads

/-- Docker is asked about one container for two workloads exactly if these have their scopes and
names in common, or one scope is the other one with the beginning of a runnable appended. -/
theorem containers_shared_iff (ts : Tools σ) (d₁ d₂ : Engine) (l₁ l₂ : Launch)
    (hs₁ : DnsLabel l₁.scope.name) (hr₁ : DnsLabel l₁.name) (hs₂ : DnsLabel l₂.scope.name)
    (hr₂ : DnsLabel l₂.name) (demands₁ demands₂ : List Demand) (w₁ w₂ : World σ) :
    let shared := (l₁.scope.name = l₂.scope.name ∧ l₁.name = l₂.name) ∨
      Straddles l₁.scope.name l₁.name l₂.scope.name l₂.name ∨
      Straddles l₂.scope.name l₂.name l₁.scope.name l₁.name
    (containerName l₁.scope.name l₁.name = containerName l₂.scope.name l₂.name ↔ shared) ∧
    ∀ u₁ ∈ ((backend ts.recorded d₁).life l₁ demands₁ (w₁.recording [])).uses,
    ∀ u₂ ∈ ((backend ts.recorded d₂).life l₂ demands₂ (w₂.recording [])).uses,
      (∃ c, Addresses d₁.tool c u₁ ∧ Addresses d₂.tool c u₂) ↔ shared := by
  intro shared
  have heq := containerName_eq_iff hs₁ hr₁ hs₂ hr₂
  refine ⟨heq, fun u₁ hu₁ u₂ hu₂ => ?_⟩
  obtain ⟨us₁, hus₁, hall₁⟩ := life_addresses ts d₁ l₁ demands₁ (w₁.recording [])
  obtain ⟨us₂, hus₂, hall₂⟩ := life_addresses ts d₂ l₂ demands₂ (w₂.recording [])
  have h₁ := hall₁ u₁ (by simpa [hus₁] using hu₁)
  have h₂ := hall₂ u₂ (by simpa [hus₂] using hu₂)
  refine Iff.trans ?_ heq
  constructor
  · rintro ⟨c, hc₁, hc₂⟩
    rw [h₁.unique hc₁, h₂.unique hc₂]
  · intro h
    exact ⟨_, h₁, h ▸ h₂⟩

section Staged

def flickering : World StandIn.State :=
  ⟨.empty, .empty, { StandIn.State.empty with
    tools := ["docker"]
    rules := [⟨"docker", ["inspect"], some 1, 0, [116, 114, 117, 101], [], .exited 0, .block⟩] }⟩

def launchOf (scope runnable : String) : Launch :=
  ⟨⟨scope, "/" ++ scope, false⟩, runnable, .empty, .ofImage "image"⟩

def usesOf (scope runnable : String) : List Use :=
  ((backend StandIn.tools.recorded engine).life (launchOf scope runnable) [.halt .stop]
    (flickering.recording [])).uses

theorem containers_shared_iff_apart :
    (usesOf "a" "b-c").length = 3 ∧ (usesOf "a-b" "d").length = 3 ∧
    ∀ u₁ ∈ usesOf "a" "b-c", ∀ u₂ ∈ usesOf "a-b" "d",
      ¬ ∃ c, Addresses engine.tool c u₁ ∧ Addresses engine.tool c u₂ := by
  refine ⟨by decide +kernel, by decide +kernel, fun u₁ hu₁ u₂ hu₂ hc => ?_⟩
  obtain ⟨hsame, huses⟩ := containers_shared_iff StandIn.tools engine engine
    (launchOf "a" "b-c") (launchOf "a-b" "d") (by decide) (by decide) (by decide) (by decide)
    [.halt .stop] [.halt .stop] flickering flickering
  exact absurd (hsame.mpr ((huses u₁ hu₁ u₂ hu₂).mp hc)) (by decide)

theorem container_removed_by_other :
    let first := engine.launch StandIn.tools.recorded (launchOf "a" "b-c") (flickering.recording [])
    let second := engine.launch StandIn.tools.recorded (launchOf "a-b" "c") first.2
    (¬ ∀ s r s' r' : String, DnsLabel s → DnsLabel r → DnsLabel s' → DnsLabel r' →
      containerName s r = containerName s' r' → s = s' ∧ r = r') ∧
    first.1.toOption.map (·.handle.name) = some "a-b-c" ∧
    first.2.uses.all (· ≠ .call ⟨"docker", ["rm", "--force", "a-b-c"]⟩) ∧
    second.1.toOption.isNone ∧
    second.2.uses.getLast? = some (.call ⟨"docker", ["rm", "--force", "a-b-c"]⟩) := by
  intro first second
  refine ⟨fun h => ?_, by decide +kernel, by decide +kernel, by decide +kernel, by decide +kernel⟩
  have hsame := h "a" "b-c" "a-b" "c" (by decide) (by decide) (by decide) (by decide) (by decide)
  exact absurd hsame.1 (by decide)

end Staged

end Docker

end Testbed
