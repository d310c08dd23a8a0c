import Testbed.Proofs.Grouping

/-!
No sample of a document is lost, counted twice or attached to the wrong series.
-/
namespace Testbed.Metrics

def boundRole (kind : Kind) : Role := if kind = .histogram then .bucket else .value

/-- A series of an aggregate that holds some lines of its family, and nothing else. -/
structure HoldsLines (kind : Kind) (mine : List Part) (m : Series) : Prop where
  roles : ∀ p ∈ mine, p.role = boundRole kind ∨ p.role = .sum ∨ p.role = .count
  histogram : kind = .histogram → ∃ buckets,
    m.value = .histogram (lastOf .sum mine) (lastOf .count mine) buckets ∧
    buckets.map (fun b => (some b.bound, b.count)) =
      (mine.filter (·.role = .bucket)).map fun p => (p.bound? kind, p.sample.value)
  summary : kind = .summary → ∃ quantiles,
    m.value = .summary (lastOf .sum mine) (lastOf .count mine) quantiles ∧
    quantiles.map (fun q => (some q.rank, q.value)) =
      (mine.filter (·.role = .value)).map fun p => (p.bound? kind, p.sample.value)
  timestamp : m.timestamp = lastTimestamp mine

variable {kind : Kind} {ps : List Part} {p : Part}

theorem Part.Fits.role (h : p.Fits kind) :
    p.role = boundRole kind ∨ p.role = .sum ∨ p.role = .count := by
  cases hr : p.role with
  | sum => exact .inr (.inl rfl)
  | count => exact .inr (.inr rfl)
  | bucket =>
    have hk : kind = .histogram := by simp [Fits, hr] at h; exact h.1
    exact .inl (by rw [hk]; rfl)
  | value =>
    have hk : kind = .summary := by simp [Fits, hr] at h; exact h.1
    exact .inl (by rw [hk]; rfl)

theorem map_filterMap {α : Type} {f : Part → Option α} {role : Role} {make : Float → Float → α}
    {pair : α → Option Float × Float} (hpair : ∀ b x, pair (make b x) = (some b, x))
    (hf : ∀ p, f p = if p.role = role then (p.bound? kind).map (make · p.sample.value) else none)
    (h : ∀ p ∈ ps, p.role = role → (p.bound? kind).isSome) :
    (ps.filterMap f).map pair =
      (ps.filter (·.role = role)).map fun p => (p.bound? kind, p.sample.value) := by
  induction ps with
  | nil => rfl
  | cons p ps ih =>
    obtain ⟨hp, hps⟩ := List.forall_mem_cons.1 h
    by_cases hr : p.role = role
    · obtain ⟨b, hb⟩ := Option.isSome_iff_exists.1 (hp hr)
      have hmake : f p = some (make b p.sample.value) := by simp [hf, hr, hb]
      simp [hmake, hpair, hr, hb, ih hps]
    · have hnone : f p = none := by simp [hf, hr]
      simp [hnone, hr, ih hps]

theorem holdsLines_gather (h : ∀ p ∈ ps, p.Fits kind) (labels : Labels) :
    HoldsLines kind (linesOf kind ps labels) (gather kind ps labels) := by
  have hmine : ∀ p ∈ linesOf kind ps labels, p.Fits kind := fun p hp =>
    h p (List.mem_of_mem_filter hp)
  refine ⟨fun p hp => (hmine p hp).role, ?_, ?_, rfl⟩
  · rintro rfl
    refine ⟨_, rfl, map_filterMap (fun _ _ => rfl) (fun _ => rfl) fun p hp hr => ?_⟩
    simpa [Part.Fits, hr] using hmine p hp
  · rintro rfl
    refine ⟨_, rfl, map_filterMap (fun _ _ => rfl) (fun _ => rfl) fun p hp hr => ?_⟩
    simpa [Part.Fits, hr] using hmine p hp

/-- Every line of an accepted document is lexed, and the families are those that its samples
belong to. A family that is no aggregate has one series for each of its samples; an aggregate has
one for each label set, in the order of their first lines, and it holds exactly those lines. -/
theorem parse_attaches_every_sample {document : String} {fs : Families}
    (h : parse document = .ok fs) :
    ∃ ls, (Text.lines document.toList).map lexLine = ls.map .ok ∧
      let kinds := kindsOf ls
      let own := fun name => (samplesOf ls).filter (familyName kinds · = name)
      (∀ name kind, kinds.get? name = some kind ↔ .declaration name kind ∈ ls) ∧
      (∀ s ∈ samplesOf ls, (s.labels.map (·.1)).Nodup) ∧
      (∀ name, (fs.get? name).isSome ↔ ∃ s ∈ samplesOf ls, familyName kinds s = name) ∧
      ∀ name f, fs.get? name = some f →
        f.kind = (kinds.get? name).getD .untyped ∧
        (f.kind.isAggregate = false → f.series =
          (own name).map fun s => ⟨.ofList s.labels, .simple s.value, s.timestamp⟩) ∧
        (f.kind.isAggregate = true →
          f.series.map (·.labels) =
            ((own name).map fun s => (part kinds s).seriesLabels f.kind).eraseDups ∧
          ∀ m ∈ f.series, HoldsLines f.kind
            (((own name).map (part kinds)).filter (·.seriesLabels f.kind = m.labels)) m) := by
  obtain ⟨ls, hls, hagree, hadmissible, hholds⟩ := parse_eq_ok.1 h
  refine ⟨ls, hls, fun name kind => hagree.get?_kindsOf, fun s hs => (hadmissible s hs).names,
    hholds.names, ?_⟩
  intro name f hf
  rw [hholds.family name f hf]
  refine ⟨rfl, ?_, ?_⟩
  · intro hk
    simp only [familyOf] at hk ⊢
    simp [seriesOf, hk, partsOf, Part.simple, Part.labels, part]
  · intro hk
    simp only [familyOf] at hk ⊢
    have hfits : ∀ p ∈ partsOf (kindsOf ls) name (samplesOf ls),
        p.Fits (kindOf (kindsOf ls) name) := by
      intro p hp
      obtain ⟨s, hs, rfl⟩ := List.mem_map.1 hp
      obtain ⟨hs, hname⟩ := List.mem_filter.1 hs
      have hadm := hadmissible s hs
      rw [AdmissibleIn, of_decide_eq_true hname] at hadm
      exact hadm.fits hk
    rw [seriesOf, if_pos hk]
    refine ⟨?_, ?_⟩
    · rw [List.map_map, partsOf, List.map_map]
      exact List.map_id _
    · intro m hm
      obtain ⟨labels, -, rfl⟩ := List.mem_map.1 hm
      exact holdsLines_gather hfits labels

def interleaved : String :=
  "# TYPE h histogram\nh_bucket\x7ble=\"1\",z=\"a\"\x7d 2\nup 1\nh_sum\x7bz=\"b\"\x7d 3 7\n" ++
    "h_count\x7bz=\"a\"\x7d 2\n"

theorem parse_attaches_every_sample_interleaved :
    ∃ fs ls, parse interleaved = .ok fs ∧
      (fs.get? "h").map (·.series.map (·.labels.entries)) = some [[("z", "a")], [("z", "b")]] ∧
      (Text.lines interleaved.toList).map lexLine = ls.map .ok ∧
      ∀ name, (fs.get? name).isSome ↔ ∃ s ∈ samplesOf ls, familyName (kindsOf ls) s = name := by
  have hlabels : (parse interleaved).toOption.map
      (fun fs => (fs.get? "h").map (·.series.map (·.labels.entries))) =
        some (some [[("z", "a")], [("z", "b")]]) := by
    decide +kernel
  cases hp : parse interleaved with
  | error e => rw [hp] at hlabels; cases hlabels
  | ok fs =>
    rw [hp] at hlabels
    obtain ⟨ls, hls, -, -, hnames, -⟩ := parse_attaches_every_sample hp
    exact ⟨fs, ls, rfl, Option.some.inj hlabels, hls, hnames⟩

end Testbed.Metrics
