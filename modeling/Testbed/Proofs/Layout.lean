import Testbed.Kind.Backend
import Testbed.Proofs.Remains

/-!
What stands in the directory of an environment: the working directory, the log and the manifest of
each runnable, and what the environment keeps for itself. These have paths of their own, except that
the names of two of the environment's own entries can be given to runnables too.
-/
namespace Testbed

inductive Item where
  | workDir (runnable : String)
  | log (runnable : String)
  | manifest (runnable : String)
  | logs
  | kubeconfig
  | clusterConfig
deriving DecidableEq

namespace Item

def path (s : Scope) : Item → String
  | workDir runnable => s.workDir runnable
  | log runnable => logFile s.dir runnable
  | manifest runnable => Kind.manifestFile s runnable
  | logs => s.logsDir
  | kubeconfig => Kind.kubeconfig s
  | clusterConfig => Kind.configFile s

def place : Item → List String
  | workDir runnable => [runnable]
  | log runnable => ["logs", runnable ++ ".log"]
  | manifest runnable => [runnable ++ ".manifest.yaml"]
  | logs => ["logs"]
  | kubeconfig => ["kubeconfig"]
  | clusterConfig => ["kind-config.yaml"]

def runnable? : Item → Option String
  | workDir runnable | log runnable | manifest runnable => some runnable
  | logs | kubeconfig | clusterConfig => none

/-- A working directory stands where the environment has an entry of its own. -/
def Clash (i j : Item) : Prop :=
  (i = workDir "logs" ∧ j = logs) ∨ (i = workDir "kubeconfig" ∧ j = kubeconfig)

instance : DecidableRel Clash := fun _ _ => inferInstanceAs (Decidable (_ ∨ _))

variable {i j : Item} {s : Scope} {name : String}

theorem components_suffixed (h : isLabel name = true) {suffix : String}
    (hslash : '/' ∉ suffix.toList) (hlong : 2 ≤ suffix.toList.length) (p : String) :
    Path.components (Path.join p (name ++ suffix)) = Path.components p ++ [name ++ suffix] := by
  have hlength : 2 ≤ (name ++ suffix).toList.length := by
    rw [String.toList_append, List.length_append]
    omega
  refine Path.components_join_piece ?_ ?_ p
  · rw [String.toList_append, List.mem_append]
    rintro (hm | hm)
    · exact not_mem_of_isLabel rfl h hm
    · exact hslash hm
  · simp only [Path.isVoid, Bool.or_eq_false_iff, beq_eq_false_iff_ne]
    constructor <;> intro heq <;> rw [heq] at hlength <;> exact absurd hlength (by decide)

theorem components_path (h : ∀ n ∈ i.runnable?, isLabel n = true) (s : Scope) :
    Path.components (i.path s) = Path.components s.dir ++ i.place := by
  cases i with
  | workDir name => exact Path.components_join (h name rfl) s.dir
  | log name =>
    have hlog : ∀ p, Path.components (Path.join p (name ++ ".log")) =
        Path.components p ++ [name ++ ".log"] :=
      components_suffixed (h name rfl) (by decide) (by decide)
    rw [path, logFile, hlog, Path.components_join (by decide), List.append_assoc]
    rfl
  | manifest name => exact components_suffixed (h name rfl) (by decide) (by decide) s.dir
  | logs => exact Path.components_join (by decide) s.dir
  | kubeconfig => exact Path.components_join (by decide) s.dir
  | clusterConfig => exact Path.components_join_piece (by decide) (by decide) s.dir

theorem ne_of_dot (h : isLabel name = true) {other : String} (hdot : '.' ∈ other.toList) :
    name ≠ other := by
  rintro rfl
  exact not_mem_of_isLabel rfl h hdot

theorem append_ne {suffix other : String} (h : ¬ suffix.toList <:+ other.toList) :
    name ++ suffix ≠ other := by
  rintro rfl
  exact h (by simp)

theorem eq_or_clash_of_workDir (h : isLabel name = true)
    (hp : (workDir name).place = j.place) : workDir name = j ∨ Clash (workDir name) j := by
  cases j with
  | workDir other => exact .inl (congrArg workDir (List.cons.inj hp).1)
  | log other => cases (List.cons.inj hp).2
  | manifest other => exact absurd (List.cons.inj hp).1 (ne_of_dot h (by simp))
  | logs =>
    rw [(List.cons.inj hp).1]
    exact .inr (.inl ⟨rfl, rfl⟩)
  | kubeconfig =>
    rw [(List.cons.inj hp).1]
    exact .inr (.inr ⟨rfl, rfl⟩)
  | clusterConfig => exact absurd (List.cons.inj hp).1 (ne_of_dot h (by decide))

theorem eq_of_log (hp : (log name).place = j.place) : log name = j := by
  cases j with
  | log other =>
    obtain ⟨hname, -⟩ := List.cons.inj (List.cons.inj hp).2
    rw [(String.append_left_inj ".log").mp hname]
  | workDir | manifest | logs | kubeconfig | clusterConfig => cases (List.cons.inj hp).2

theorem eq_of_manifest (hj : ∀ n ∈ j.runnable?, isLabel n = true)
    (hp : (manifest name).place = j.place) : manifest name = j := by
  cases j with
  | workDir other => exact absurd (List.cons.inj hp).1.symm (ne_of_dot (hj other rfl) (by simp))
  | log other => cases (List.cons.inj hp).2
  | manifest other => rw [(String.append_left_inj ".manifest.yaml").mp (List.cons.inj hp).1]
  | logs | kubeconfig | clusterConfig =>
    exact absurd (List.cons.inj hp).1 (append_ne (by decide))

theorem place_of_clash (h : Clash i j) : i.place = j.place := by
  rcases h with ⟨rfl, rfl⟩ | ⟨rfl, rfl⟩ <;> rfl

theorem place_eq_iff (hi : ∀ n ∈ i.runnable?, isLabel n = true)
    (hj : ∀ n ∈ j.runnable?, isLabel n = true) :
    i.place = j.place ↔ i = j ∨ Clash i j ∨ Clash j i := by
  constructor
  · intro hp
    cases i with
    | workDir name => exact (eq_or_clash_of_workDir (hi name rfl) hp).imp_right .inl
    | log name => exact .inl (eq_of_log hp)
    | manifest name => exact .inl (eq_of_manifest hj hp)
    | logs | kubeconfig | clusterConfig =>
      cases j with
      | workDir name =>
        exact (eq_or_clash_of_workDir (hj name rfl) hp.symm).imp Eq.symm .inr
      | log name => exact .inl (eq_of_log hp.symm).symm
      | manifest name => exact .inl (eq_of_manifest hi hp.symm).symm
      | logs | kubeconfig | clusterConfig => simp [place] at hp ⊢
  · rintro (rfl | h | h)
    · rfl
    · exact place_of_clash h
    · exact (place_of_clash h).symm

theorem path_of_clash (h : Clash i j) (s : Scope) : i.path s = j.path s := by
  rcases h with ⟨rfl, rfl⟩ | ⟨rfl, rfl⟩ <;> rfl

end Item

namespace Environment

open Item

variable {σ κ : Type} {b : Backend σ κ} {net : Network σ} {e : Environment σ κ}

/-- Different entries of the directory have different paths, however these are written, unless one
is the working directory of a runnable that is named like one of the environment's own entries. -/
theorem paths_apart (hr : e.Reachable b net) (i j : Item) (hi : ∀ n ∈ i.runnable?, n ∈ e.reserved)
    (hj : ∀ n ∈ j.runnable?, n ∈ e.reserved) :
    (Path.components (i.path e.scope) = Path.components (j.path e.scope) ↔
      i.path e.scope = j.path e.scope) ∧
    (i.path e.scope = j.path e.scope ↔ i = j ∨ Clash i j ∨ Clash j i) := by
  have hli : ∀ n ∈ i.runnable?, isLabel n = true := fun n hn => hr.isLabel_of_reserved n (hi n hn)
  have hlj : ∀ n ∈ j.runnable?, isLabel n = true := fun n hn => hr.isLabel_of_reserved n (hj n hn)
  have hplaces : Path.components (i.path e.scope) = Path.components (j.path e.scope) ↔
      i = j ∨ Clash i j ∨ Clash j i := by
    rw [components_path hli, components_path hlj, List.append_cancel_left_eq, place_eq_iff hli hlj]
  have hpaths : i.path e.scope = j.path e.scope ↔ i = j ∨ Clash i j ∨ Clash j i := by
    constructor
    · intro h
      exact hplaces.mp (congrArg Path.components h)
    · rintro (rfl | h | h)
      · rfl
      · exact path_of_clash h e.scope
      · exact (path_of_clash h e.scope).symm
  exact ⟨hplaces.trans hpaths.symm, hpaths⟩

def itemsOfTwo : List Item :=
  [.workDir "a", .log "a", .manifest "a", .workDir "a-log", .log "a-log", .manifest "a-log", .logs,
    .kubeconfig, .clusterConfig]

theorem paths_apart_two : ∃ e : Environment StandIn.State String,
    e.Reachable StandIn.backend StandIn.network ∧
    ∀ i ∈ itemsOfTwo, ∀ j ∈ itemsOfTwo, i.path e.scope = j.path e.scope → i = j := by
  obtain ⟨e, hr, hp⟩ := exists_reachable StandIn.backend StandIn.network (.ofName "bed") "/tmp"
    "Ab3dE9" ⟨.empty, .empty, StandIn.State.empty⟩ [.reserve "a", .reserve "a-log"]
    (fun e => ∀ i ∈ itemsOfTwo, ∀ n ∈ i.runnable?, n ∈ e.reserved) (by decide +kernel)
  have hreserved := of_decide_eq_true hp
  have hclash : ∀ i ∈ itemsOfTwo, ∀ j ∈ itemsOfTwo, ¬ Clash i j := by decide
  refine ⟨e, hr, fun i hi j hj hpath => ?_⟩
  rcases (paths_apart hr i j (hreserved i hi) (hreserved j hj)).2.mp hpath with h | h | h
  · exact h
  · exact absurd h (hclash i hi j hj)
  · exact absurd h (hclash j hj i hi)

theorem workDir_of_own_entry : ∃ e : Environment StandIn.State String,
    e.Reachable StandIn.backend StandIn.network ∧ "logs" ∈ e.reserved ∧ "kubeconfig" ∈ e.reserved ∧
    (settle ⟨"logs", .empty⟩ e).1.isOk = true ∧
    e.scope.workDir "logs" = e.scope.logsDir ∧
    e.scope.workDir "kubeconfig" = Kind.kubeconfig e.scope := by
  obtain ⟨e, hr, hp⟩ := exists_reachable StandIn.backend StandIn.network (.ofName "bed") "/tmp"
    "Ab3dE9" ⟨.empty, .empty, StandIn.State.empty⟩ [.reserve "logs", .reserve "kubeconfig"]
    (fun e => "logs" ∈ e.reserved ∧ "kubeconfig" ∈ e.reserved ∧
      (settle ⟨"logs", .empty⟩ e).1.isOk = true) (by decide +kernel)
  obtain ⟨hlogs, hkube, hsettle⟩ := of_decide_eq_true hp
  exact ⟨e, hr, hlogs, hkube, hsettle, rfl, rfl⟩

end Environment

end Testbed
