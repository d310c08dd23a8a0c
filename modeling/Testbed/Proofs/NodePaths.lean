import Testbed.Proofs.CrossReferences
import Testbed.Proofs.Directories

/-!
The paths that volumes have on the node. What is below the shared directory, by the components of
its path, is seen below the mount of that directory; every other path is taken as it is written.
-/
namespace Testbed

namespace Text

variable {stop : Char} {s t : List Char} {ps qs : List (List Char)}

theorem Pieces.append (h : Pieces stop s ps) (h' : Pieces stop t qs) :
    Pieces stop (s ++ stop :: t) (ps ++ qs) := by
  induction h with
  | last hp => exact .more hp h'
  | more hp _ ih =>
    rw [List.append_assoc, List.cons_append]
    exact .more hp ih

theorem Pieces.not_mem (h : Pieces stop s ps) : ∀ p ∈ ps, stop ∉ p := by
  induction h with
  | last hp => exact List.forall_mem_singleton.2 hp
  | more hp _ ih => exact List.forall_mem_cons.2 ⟨hp, ih⟩

end Text

namespace Path

variable {p q base rest first : String} {ps cs r : List String}

theorem pieces_append (p q : String) : pieces (p ++ "/" ++ q) = pieces p ++ pieces q := by
  have hl : (p ++ "/" ++ q).toList = p.toList ++ '/' :: q.toList := by simp
  have hcut := (Text.pieces_cut '/' p.toList).append (Text.pieces_cut '/' q.toList)
  rw [pieces, Text.splitAt, hl, Text.cut_eq_iff.2 hcut, List.map_append]
  rfl

theorem not_mem_of_mem_pieces (h : q ∈ pieces p) : '/' ∉ q.toList := by
  obtain ⟨t, ht, rfl⟩ := List.mem_map.1 h
  rw [String.toList_ofList]
  exact (Text.pieces_cut '/' p.toList).not_mem t ht

theorem isRooted_iff : isRooted p = true ↔ ∃ r, r ≠ [] ∧ pieces p = "" :: r := by
  rw [isRooted, beq_iff_eq]
  constructor
  · intro h
    obtain ⟨s, hs⟩ := List.head?_eq_some_iff.1 h
    have hp : p = "" ++ "/" ++ String.ofList s := by
      rw [← String.toList_inj, hs]
      simp
    rw [hp, pieces_append]
    exact ⟨_, pieces_ne_nil _, rfl⟩
  · rintro ⟨r, hne, hr⟩
    have hpieces : Text.Pieces '/' p.toList ([] :: r.map String.toList) := Kind.splitAt_eq_iff.1 hr
    generalize hs : r.map String.toList = ps at hpieces
    generalize p.toList = t at hpieces ⊢
    cases hpieces with
    | last => exact absurd (List.map_eq_nil_iff.1 hs) hne
    | more => rfl

def solid (ps : List String) : List String := ps.filter (!isVoid ·)

theorem solid_cons (h : isVoid p = false) (ps : List String) : solid (p :: ps) = p :: solid ps :=
  List.filter_cons_of_pos (by simp [h])

theorem solid_dropWhile (ps : List String) : solid (ps.dropWhile isVoid) = solid ps := by
  induction ps with
  | nil => rfl
  | cons p ps ih =>
    rw [List.dropWhile_cons]
    split
    · next h =>
      rw [ih, solid, solid, List.filter_cons_of_neg (by simp [h])]
    · rfl

theorem solid_trimPieces (ps : List String) : solid (trimPieces ps) = solid ps := by
  rw [trimPieces, solid, List.filter_reverse, ← solid, solid_dropWhile, solid, List.filter_reverse,
    List.reverse_reverse, solid]

theorem components_of_rooted (hne : r ≠ []) (h : pieces p = "" :: r) :
    components p = "/" :: solid r := by
  rw [components_of_pieces h, anchor, if_neg (not_not.2 rfl), if_neg hne]
  rfl

theorem head?_anchor (h : pieces p = first :: r) :
    (anchor first r).head? = some "/" ↔ first = "" ∧ r ≠ [] := by
  have hslash : first ≠ "/" := by
    rintro rfl
    exact not_mem_of_mem_pieces (h ▸ List.mem_cons_self) List.mem_cons_self
  by_cases hfirst : first = ""
  · by_cases hr : r = [] <;> simp [anchor, hfirst, hr]
  · simp [anchor, hfirst, hslash]

theorem head?_anchor_of_components (h : pieces p = first :: r)
    (hc : (components p).head? = some "/") : (anchor first r).head? = some "/" := by
  rw [components_of_pieces h] at hc
  by_cases hfirst : first = ""
  · by_cases hr : r = []
    · simp [anchor, hfirst, hr] at hc
    · simp [anchor, hfirst, hr]
  · simpa [anchor, hfirst] using hc

theorem strip_cons (c : String) (cs ps : List String) :
    (∃ p r, r <:+ ps ∧ solid ps = p :: solid r ∧
      strip (c :: cs) ps = if p = c then strip cs r else none) ∨
    solid ps = [] ∧ strip (c :: cs) ps = none := by
  rw [← solid_dropWhile, strip]
  cases h : ps.dropWhile isVoid with
  | nil => exact .inr ⟨rfl, rfl⟩
  | cons p r =>
    have hp : isVoid p = false := by
      have hstop := List.head?_dropWhile_not isVoid ps
      rwa [h] at hstop
    have hsuffix : r <:+ ps := (List.suffix_cons p r).trans (h ▸ List.dropWhile_suffix isVoid)
    exact .inl ⟨p, r, hsuffix, solid_cons hp r, rfl⟩

theorem strip_eq_some (h : strip cs ps = some r) : r <:+ ps ∧ solid ps = cs ++ solid r := by
  induction cs generalizing ps with
  | nil =>
    obtain rfl := Option.some.inj h
    exact ⟨List.suffix_rfl, rfl⟩
  | cons c cs ih =>
    rcases strip_cons c cs ps with ⟨p, r', hsuffix, hsolid, hstrip⟩ | ⟨-, hstrip⟩
    · rw [hstrip] at h
      split at h
      · next hp =>
        obtain ⟨hleft, hrest⟩ := ih h
        exact ⟨hleft.trans hsuffix, by rw [hsolid, hrest, hp, List.cons_append]⟩
      · cases h
    · rw [hstrip] at h
      cases h

theorem not_prefix_of_strip (h : strip cs ps = none) : ¬cs <+: solid ps := by
  induction cs generalizing ps with
  | nil => cases h
  | cons c cs ih =>
    rcases strip_cons c cs ps with ⟨p, r, -, hsolid, hstrip⟩ | ⟨hsolid, -⟩
    · rw [hsolid, List.cons_prefix_cons]
      rintro ⟨rfl, hbegins⟩
      rw [hstrip, if_pos rfl] at h
      exact ih h hbegins
    · rw [hsolid, List.prefix_nil]
      exact List.cons_ne_nil c cs

theorem pieces_intercalate (hne : ps ≠ []) (h : ∀ p ∈ ps, '/' ∉ p.toList) :
    pieces ("/".intercalate ps) = ps := by
  have hsingle : ∀ p : String, '/' ∉ p.toList → pieces p = [p] := fun p hp => by
    rw [pieces, Text.splitAt, Text.cut_of_not_mem hp, List.map_singleton, String.ofList_toList]
  induction ps with
  | nil => exact absurd rfl hne
  | cons p ps ih =>
    obtain ⟨hp, hps⟩ := List.forall_mem_cons.1 h
    cases ps with
    | nil => rw [String.intercalate_singleton, hsingle p hp]
    | cons q ps =>
      rw [String.intercalate_cons_cons, pieces_append, hsingle p hp,
        ih (List.cons_ne_nil q ps) hps]
      rfl

def trimmedText (ps : List String) : String := "/".intercalate (trimPieces (ps.dropWhile isVoid))

theorem trimPieces_prefix (ps : List String) : trimPieces ps <+: ps := by
  rw [trimPieces, ← List.reverse_suffix, List.reverse_reverse]
  exact List.dropWhile_suffix isVoid

theorem trimmedText_spec (h : ∀ p ∈ ps, '/' ∉ p.toList) :
    isRooted (trimmedText ps) = false ∧ solid (pieces (trimmedText ps)) = solid ps := by
  have hsolid : solid (trimPieces (ps.dropWhile isVoid)) = solid ps := by
    rw [solid_trimPieces, solid_dropWhile]
  have hbegins := trimPieces_prefix (ps.dropWhile isVoid)
  unfold trimmedText
  cases hq : trimPieces (ps.dropWhile isVoid) with
  | nil =>
    rw [hq] at hsolid
    exact ⟨rfl, hsolid⟩
  | cons q qs =>
    rw [hq] at hsolid hbegins
    have hmem : ∀ p ∈ q :: qs, '/' ∉ p.toList := fun p hp =>
      h p ((List.dropWhile_sublist isVoid).mem (hbegins.mem hp))
    have hpieces : pieces ("/".intercalate (q :: qs)) = q :: qs :=
      pieces_intercalate (List.cons_ne_nil q qs) hmem
    refine ⟨?_, by rw [hpieces, hsolid]⟩
    rw [← Bool.not_eq_true, isRooted_iff, hpieces]
    rintro ⟨r, -, hr⟩
    obtain ⟨t, ht⟩ := hbegins
    have hstop := List.head?_dropWhile_not isVoid ps
    rw [← ht, (List.cons.inj hr).1] at hstop
    cases hstop

theorem below?_of_rooted (hbase : isRooted base = true) (p : String) :
    (∃ rest, below? base p = some rest ∧ isRooted rest = false ∧
      components p = components base ++ solid (pieces rest)) ∨
    below? base p = none ∧ ¬components base <+: components p := by
  obtain ⟨b, hb, hbpieces⟩ := isRooted_iff.1 hbase
  cases hp : pieces p with
  | nil => exact absurd hp (pieces_ne_nil p)
  | cons first r =>
    have hbelow : below? base p = if (anchor first r).head? = some "/" then
        (strip (solid b) r).map trimmedText else none := by
      rw [below?, components_of_rooted hb hbpieces, hp]
      rfl
    rw [hbelow, components_of_rooted hb hbpieces]
    by_cases hroot : (anchor first r).head? = some "/"
    · obtain ⟨rfl, hr⟩ := (head?_anchor hp).1 hroot
      rw [if_pos hroot, components_of_rooted hr hp]
      cases hs : strip (solid b) r with
      | none =>
        refine .inr ⟨rfl, ?_⟩
        rw [List.cons_prefix_cons]
        exact fun h => not_prefix_of_strip hs h.2
      | some ps =>
        obtain ⟨hsuffix, hleft⟩ := strip_eq_some hs
        have hmem : ∀ q ∈ ps, '/' ∉ q.toList := fun q hq =>
          not_mem_of_mem_pieces (hp ▸ List.mem_cons_of_mem "" (hsuffix.mem hq))
        obtain ⟨hrooted, hsolid⟩ := trimmedText_spec hmem
        exact .inl ⟨_, rfl, hrooted, by rw [hsolid, hleft, List.cons_append]⟩
    · refine .inr ⟨if_neg hroot, ?_⟩
      rintro ⟨t, ht⟩
      exact hroot (head?_anchor_of_components hp (ht ▸ rfl))

end Path

namespace Kind

open Testbed.Path (components)
open Yaml (record)

variable {l : Launch} {shared : String}

/-- Where the node has a host path. A path that only begins with the same text, and a path above the
shared directory, are not below it. -/
structure SeenAt (shared host path : String) : Prop where
  below : components shared <+: components host →
    components path = components nodeShared ++ (components host).drop (components shared).length
  apart : ¬components shared <+: components host → path = host
  beside : ∀ above last more rest, components shared = above ++ [last] → more ≠ "" →
    components host = above ++ (last ++ more) :: rest → path = host
  above : components host <+: components shared → components host ≠ components shared → path = host

theorem components_nodeShared (rest : String) :
    components (nodeShared ++ "/" ++ rest) =
      components nodeShared ++ Path.solid (Path.pieces rest) := by
  have hpieces : Path.pieces (nodeShared ++ "/" ++ rest) =
      "" :: "rigging-shared" :: Path.pieces rest := Path.pieces_append nodeShared rest
  rw [Path.components_of_rooted (List.cons_ne_nil _ _) hpieces]
  rfl

theorem join_nodeShared {rest : String} (h : Path.isRooted rest = false) :
    Path.join nodeShared rest = nodeShared ++ "/" ++ rest := by
  rw [Path.join, if_neg (by simp [h]), if_neg (by decide)]

theorem seenAt_nodePath (hs : Path.isRooted shared = true) (host : String) :
    SeenAt shared host (nodePath shared host) := by
  have hbelow := Path.below?_of_rooted hs host
  have hapart : ¬components shared <+: components host → nodePath shared host = host := by
    intro hnot
    rcases hbelow with ⟨rest, -, -, hcomponents⟩ | ⟨hnone, -⟩
    · exact absurd ⟨_, hcomponents.symm⟩ hnot
    · rw [nodePath, hnone]
  constructor
  case below =>
    intro hbegins
    rcases hbelow with ⟨rest, hrest, hrooted, hcomponents⟩ | ⟨-, hnot⟩
    · rw [nodePath, hrest, hcomponents, List.drop_left]
      dsimp only
      rw [join_nodeShared hrooted, components_nodeShared]
    · exact absurd hbegins hnot
  case apart => exact hapart
  case beside =>
    intro above last more rest hshared hmore hhost
    refine hapart ?_
    rw [hshared, hhost, List.prefix_append_right_inj, List.cons_prefix_cons]
    rintro ⟨hlast, -⟩
    exact hmore (by simpa using congrArg String.toList hlast)
  case above =>
    intro hbegins hne
    refine hapart fun h => hne ?_
    exact hbegins.eq_of_length_le h.length_le

def VolumeSeen (shared text : String) (y : Yaml) : Prop :=
  ∃ spec path, VolumeText text.toList spec ∧ y.textAt ["hostPath", "path"] = some path ∧
    SeenAt shared spec.host path

theorem textAt_hostPath (v : Volume) :
    (volumeYaml v).textAt ["hostPath", "path"] = some v.path := by
  simp [volumeYaml, Yaml.textAt, List.lookup_cons, Yaml.text?]

theorem volumeSeen_extraVolumes {texts : List String} {specs : List VolumeSpec}
    (hs : Path.isRooted shared = true)
    (hv : List.Forall₂ (fun text => VolumeText text.toList) texts specs) :
    List.Forall₂ (VolumeSeen shared) texts
      ((specs.zipIdx.map (extraVolume shared)).map volumeYaml) := by
  rw [← List.zipIdx_map_fst 0 specs, List.forall₂_map_right_iff] at hv
  rw [List.forall₂_map_right_iff, List.forall₂_map_right_iff]
  refine hv.imp fun text v htext => ?_
  exact ⟨v.1, nodePath shared v.1.host, htext, textAt_hostPath _, seenAt_nodePath hs v.1.host⟩

/-- The node has every host path where it is seen there, so the volumes of a manifest have the
paths of the host that their texts name, one after another behind the shared directory. A manifest
is made if all is well written in the launch. -/
theorem hostPaths_seen (hs : Path.isRooted l.scope.dir = true) :
    (∀ host, SeenAt l.scope.dir host (nodePath l.scope.dir host)) ∧
    (∀ m, Manifest.ofLaunch l = .ok m → ∃ first volumes,
      (record m.deployment.fields).itemsAt ["spec", "template", "spec", "volumes"] =
        first :: volumes ∧
      first.textAt ["hostPath", "path"] = some nodeShared ∧
      List.Forall₂ (VolumeSeen l.scope.dir) l.options.volumes volumes) ∧
    ((∃ m, Manifest.ofLaunch l = .ok m) ↔ Renderable l) := by
  refine ⟨seenAt_nodePath hs, fun m hm => ?_, ofLaunch_iff_renderable⟩
  obtain ⟨-, specs, user, hv, -, rfl⟩ := Manifest.ofLaunch_eq_ok.1 hm
  refine ⟨volumeYaml sharedVolume, _, ?_, textAt_hostPath sharedVolume,
    volumeSeen_extraVolumes hs hv⟩
  rw [itemsAt_volumesYaml, deploymentOf, List.map_cons]

def mounted : Launch where
  scope := ⟨"bed", "/tmp/bed", false⟩
  name := "a"
  ports := .empty
  options := { Options.ofImage "image" with
    volumes := ["/tmp//bed/./data/:/data", "/tmp/bed-log:/log:ro", "/tmp:/tmp"] }

theorem hostPaths_seen_mounted : Path.isRooted mounted.scope.dir = true ∧
    (∃ m first volumes, Manifest.ofLaunch mounted = .ok m ∧
      (record m.deployment.fields).itemsAt ["spec", "template", "spec", "volumes"] =
        first :: volumes ∧
      List.Forall₂ (VolumeSeen "/tmp/bed") mounted.options.volumes volumes) ∧
    components (nodePath "/tmp/bed" "/tmp//bed/./data/") = ["/", "rigging-shared", "data"] ∧
    nodePath "/tmp/bed" "/tmp/bed-log" = "/tmp/bed-log" ∧ nodePath "/tmp/bed" "/tmp" = "/tmp" := by
  have hs : Path.isRooted mounted.scope.dir = true := by decide
  obtain ⟨hseen, hmade, -⟩ := hostPaths_seen hs
  obtain ⟨m, hm⟩ : ∃ m, Manifest.ofLaunch mounted = .ok m := ⟨_, rfl⟩
  obtain ⟨first, volumes, hvolumes, -, hall⟩ := hmade m hm
  have hbelow := (hseen "/tmp//bed/./data/").below (by decide +kernel)
  have hbeside := (hseen "/tmp/bed-log").beside ["/", "tmp"] "bed" "-log" [] (by decide +kernel)
    (by decide) (by decide +kernel)
  have habove := (hseen "/tmp").above (by decide +kernel) (by decide +kernel)
  exact ⟨hs, ⟨m, first, volumes, hm, hvolumes, hall⟩, hbelow.trans (by decide +kernel), hbeside,
    habove⟩

end Kind

end Testbed
