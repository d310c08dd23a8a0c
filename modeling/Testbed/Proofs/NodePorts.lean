import Mathlib.Data.List.Nodup
import Mathlib.Data.List.Perm.Subperm
import Testbed.Kind.Output
import Testbed.Proofs.Faithful
import Testbed.Proofs.Outline

/-!
Node ports of a service. They are resolved exactly if the service exposes the declared ports one
for one, in whatever order: as many entries as there are declared ports, among which every declared
name is found, leave no room for an entry that is doubled, renamed or undeclared.
-/
namespace Testbed

namespace Table

variable {α β ε : Type} {f : String → α → Except ε β} {entries : List (String × α)} {t : Table α}
  {u : Table β}

theorem mapEntries_of_ok {g : String → β} (h : ∀ e ∈ entries, f e.1 e.2 = .ok (g e.1)) :
    mapEntries f entries = .ok (entries.map fun e => (e.1, g e.1)) := by
  induction entries with
  | nil => rfl
  | cons e r ih =>
    obtain ⟨he, hr⟩ := List.forall_mem_cons.1 h
    simp [mapEntries, he, ih hr, bind, Except.bind, pure, Except.pure]

theorem mem_of_mapEntries {out : List (String × β)} (h : mapEntries f entries = .ok out)
    {e : String × α} (he : e ∈ entries) : ∃ w, f e.1 e.2 = .ok w ∧ (e.1, w) ∈ out := by
  induction entries generalizing out with
  | nil => cases he
  | cons d r ih =>
    obtain ⟨w, hw, h⟩ := Metrics.bind_eq_ok.1 h
    obtain ⟨rest, hrest, h⟩ := Metrics.bind_eq_ok.1 h
    cases h
    rcases List.mem_cons.1 he with rfl | he
    · exact ⟨w, hw, List.mem_cons_self⟩
    · obtain ⟨w', hw', hmem⟩ := ih hrest he
      exact ⟨w', hw', List.mem_cons_of_mem _ hmem⟩

theorem mapM_of_ok {g : String → β} (h : ∀ e ∈ t.entries, f e.1 e.2 = .ok (g e.1)) :
    t.mapM f = .ok (t.map fun k _ => g k) := by
  have hentries := mapEntries_of_ok h
  unfold mapM
  split
  · next e he => exact nomatch he.symm.trans hentries
  · next out hout =>
    obtain rfl := Except.ok.inj (hout.symm.trans hentries)
    rfl

theorem mapM_eq_ok [Inhabited β] : t.mapM f = .ok u ↔
    ∃ g : String → β, (∀ e ∈ t.entries, f e.1 e.2 = .ok (g e.1)) ∧ u = t.map fun k _ => g k := by
  constructor
  · intro h
    have hvalues : ∀ e ∈ t.entries, f e.1 e.2 = .ok ((u.get? e.1).getD default) := by
      intro e he
      have hentries : mapEntries f t.entries = .ok u.entries := by
        unfold mapM at h
        split at h
        · cases h
        · next hout =>
          cases h
          exact hout
      obtain ⟨w, hw, hmem⟩ := mem_of_mapEntries hentries he
      rw [hw, mem_entries_iff.1 hmem, Option.getD_some]
    have hall := mapM_of_ok (g := fun k => (u.get? k).getD default) hvalues
    exact ⟨_, hvalues, Except.ok.inj (h.symm.trans hall)⟩
  · intro ⟨g, hg, hu⟩
    rw [hu]
    exact mapM_of_ok hg

end Table

namespace Kind

def entriesFor (declared : Ports) (node : String → Nat) : List ServicePort :=
  declared.entries.map fun d => ⟨some d.1, d.2, some (node d.1)⟩

variable {exposed : List ServicePort} {declared ports : Ports} {node : String → Nat}
  {name command output : String} {port n : Nat}

theorem found_spec {p : ServicePort} (h : exposed.find? (·.name = some name) = some p) :
    p.name = some name ∧ p ∈ exposed := by
  have hname := List.find?_some h
  exact ⟨of_decide_eq_true hname, List.mem_of_find?_eq_some h⟩

theorem nodePort_eq_ok : nodePort exposed name port = .ok n ↔
    exposed.find? (·.name = some name) = some ⟨some name, port, some n⟩ := by
  rw [nodePort]
  cases hfind : exposed.find? (·.name = some name) with
  | none => simp
  | some p =>
    obtain ⟨pname, pport, pnode⟩ := p
    obtain rfl : pname = some name := (found_spec hfind).1
    by_cases hport : pport = port
    · cases pnode <;> simp [hport]
    · simp [hport]

theorem nodup_entriesFor (declared : Ports) (node : String → Nat) :
    (entriesFor declared node).Nodup := by
  have hnames : (entriesFor declared node).map (·.name) = declared.keys.map some := by
    rw [entriesFor, Table.keys, List.map_map, List.map_map]
    rfl
  refine List.Nodup.of_map (·.name) ?_
  rw [hnames]
  exact List.Nodup.map (fun _ _ => Option.some.inj) declared.nodup_keys

theorem perm_of_found (hlength : exposed.length = declared.size)
    (hfound : ∀ d ∈ declared.entries, exposed.find? (·.name = some d.1) =
      some ⟨some d.1, d.2, some (node d.1)⟩) : exposed.Perm (entriesFor declared node) := by
  have hsubset : entriesFor declared node ⊆ exposed := by
    intro p hp
    obtain ⟨d, hd, rfl⟩ := List.mem_map.1 hp
    exact List.mem_of_find?_eq_some (hfound d hd)
  have hsubperm := List.subperm_of_subset (nodup_entriesFor declared node) hsubset
  refine (hsubperm.perm_of_length_le ?_).symm
  rw [hlength, entriesFor, List.length_map]
  exact Nat.le_refl _

theorem found_of_perm (h : exposed.Perm (entriesFor declared node)) {d : String × Nat}
    (hd : d ∈ declared.entries) : exposed.find? (·.name = some d.1) =
      some ⟨some d.1, d.2, some (node d.1)⟩ := by
  have hmem : (⟨some d.1, d.2, some (node d.1)⟩ : ServicePort) ∈ exposed :=
    h.mem_iff.2 (List.mem_map_of_mem hd)
  cases hfind : exposed.find? (·.name = some d.1) with
  | none =>
    have hother := List.find?_eq_none.1 hfind _ hmem
    exact absurd (decide_eq_true rfl) hother
  | some p =>
    obtain ⟨hname, hp⟩ := found_spec hfind
    obtain ⟨d', hd', rfl⟩ := List.mem_map.1 (h.mem_iff.1 hp)
    have hkey : d'.1 = d.1 := Option.some.inj hname
    have hvalue : d'.2 = d.2 := Table.eq_of_nodup_keys declared.nodup_keys d' hd' d hd hkey
    rw [hkey, hvalue]

theorem nodePorts_eq_ok : nodePorts exposed declared = .ok ports ↔
    ∃ node, exposed.Perm (entriesFor declared node) ∧
      ports = declared.map fun name _ => node name := by
  rw [nodePorts]
  by_cases hlength : exposed.length = declared.size
  · rw [if_neg (not_not.2 hlength), Table.mapM_eq_ok]
    refine exists_congr fun node => and_congr_left fun _ => ?_
    simp only [nodePort_eq_ok]
    exact ⟨perm_of_found hlength, fun h d hd => found_of_perm h hd⟩
  · rw [if_pos hlength]
    refine iff_of_false (fun h => nomatch h) ?_
    intro ⟨node, hperm, _⟩
    have hsize := hperm.length_eq
    rw [entriesFor, List.length_map] at hsize
    exact hlength hsize

theorem orParse_eq_ok {α : Type} {x : Except OutputError α} {a : α} :
    orParse command output x = .ok a ↔ x = .ok a := by
  cases x <;> simp [orParse]

/-- The ports of a service are accepted exactly if they are, in some order, one entry for each
declared name with the declared number and some node port; then just the declared names are
resolved, each to the node port of its entry. -/
theorem readNodePorts_of_entries (h : decode servicePorts? command output = .ok exposed)
    (declared : Ports) :
    ((∃ ports, readNodePorts command output declared = .ok ports) ↔
      ∃ node, exposed.Perm (entriesFor declared node)) ∧
    ∀ node, exposed.Perm (entriesFor declared node) →
      readNodePorts command output declared = .ok (declared.map fun name _ => node name) := by
  have hread : ∀ ports, readNodePorts command output declared = .ok ports ↔
      ∃ node, exposed.Perm (entriesFor declared node) ∧
        ports = declared.map fun name _ => node name := by
    intro ports
    rw [readNodePorts, h, ← nodePorts_eq_ok]
    exact orParse_eq_ok
  refine ⟨⟨?_, ?_⟩, ?_⟩
  · intro ⟨ports, hports⟩
    obtain ⟨node, hperm, -⟩ := (hread ports).1 hports
    exact ⟨node, hperm⟩
  · intro ⟨node, hperm⟩
    exact ⟨_, (hread _).2 ⟨node, hperm, rfl⟩⟩
  · intro node hperm
    exact (hread _).2 ⟨node, hperm, rfl⟩

def reordered : String :=
  "\x7b\"spec\":\x7b\"ports\":[\x7b\"name\":\"http\",\"port\":9090,\"nodePort\":31002\x7d," ++
    "\x7b\"name\":\"grpc\",\"port\":10901,\"nodePort\":31001\x7d]\x7d\x7d"

theorem readNodePorts_of_entries_reordered :
    let declared : Ports := .ofList [("http", 9090), ("grpc", 10901)]
    let node := fun name => if name = "http" then 31002 else 31001
    ∃ exposed, decode servicePorts? "kubectl" reordered = .ok exposed ∧
      exposed.Perm (entriesFor declared node) ∧
      readNodePorts "kubectl" reordered declared =
        .ok (.ofList [("grpc", 31001), ("http", 31002)]) := by
  intro declared node
  obtain ⟨exposed, hdecode, hperm⟩ := Environment.exists_of_toOption
    (x := decode servicePorts? "kubectl" reordered)
    (p := fun exposed => decide (exposed.Perm (entriesFor declared node))) (by decide +kernel)
  have hperm := of_decide_eq_true hperm
  refine ⟨exposed, hdecode, hperm, ?_⟩
  rw [(readNodePorts_of_entries hdecode declared).2 node hperm]
  exact congrArg Except.ok (by decide +kernel)

end Kind

end Testbed
