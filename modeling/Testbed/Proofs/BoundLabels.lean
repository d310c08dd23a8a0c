import Testbed.Proofs.Summing

/-!
Bound labels among the labels of series. Lines with a bound leave it to their buckets or quantiles;
sums and counts keep whatever labels they have, so a series has a bound label exactly if it comes
from a sum or a count that carries one.
-/
namespace Testbed.Metrics

/-- A sum or a count that carries the label of a bound. -/
def Part.Stray (kind : Kind) (p : Part) : Prop :=
  (p.role = .sum ∨ p.role = .count) ∧ boundLabel kind ∈ p.sample.labels.map (·.1)

instance (kind : Kind) (p : Part) : Decidable (p.Stray kind) :=
  inferInstanceAs (Decidable (_ ∧ _))

def Series.hasBoundLabel (kind : Kind) (m : Series) : Bool :=
  (m.labels.get? (boundLabel kind)).isSome

variable {kind : Kind} {ps : List Part} {p : Part} {m : Series} {document name : String}
  {fs : Families} {f : Family}

theorem Part.stray_iff : p.Stray kind ↔ ((p.seriesLabels kind).get? (boundLabel kind)).isSome := by
  cases hr : p.role with
  | bucket | value => simp [Stray, seriesLabels, hr, Table.get?_erase]
  | sum | count => simp [Stray, seriesLabels, hr, labels, isSome_get?_ofList]

theorem mem_seriesOf (hk : kind.isAggregate) :
    m ∈ seriesOf kind ps ↔ ∃ p ∈ ps, m = gather kind ps (p.seriesLabels kind) := by
  rw [seriesOf, if_pos hk]
  constructor
  · intro hm
    obtain ⟨labels, hlabels, hgather⟩ := List.mem_map.1 hm
    obtain ⟨p, hp, hown⟩ := List.mem_map.1 (List.mem_eraseDups.1 hlabels)
    exact ⟨p, hp, hown ▸ hgather.symm⟩
  · intro h
    obtain ⟨p, hp, hgather⟩ := h
    rw [hgather]
    exact List.mem_map_of_mem (List.mem_eraseDups.2 (List.mem_map_of_mem hp))

theorem hasBoundLabel_iff (hk : kind.isAggregate) (hm : m ∈ seriesOf kind ps) :
    m.hasBoundLabel kind = true ↔ ∃ p ∈ ps, p.Stray kind ∧ p.seriesLabels kind = m.labels := by
  obtain ⟨q, hq, rfl⟩ := (mem_seriesOf hk).1 hm
  constructor
  · intro h
    exact ⟨q, hq, Part.stray_iff.2 h, rfl⟩
  · intro ⟨p, _, hp, hlabels⟩
    rw [Part.stray_iff, hlabels] at hp
    exact hp

theorem exists_hasBoundLabel_iff (hk : kind.isAggregate) :
    (∃ m ∈ seriesOf kind ps, m.hasBoundLabel kind = true) ↔ ∃ p ∈ ps, p.Stray kind := by
  constructor
  · intro ⟨m, hm, h⟩
    obtain ⟨p, hp, hstray, -⟩ := (hasBoundLabel_iff hk hm).1 h
    exact ⟨p, hp, hstray⟩
  · intro ⟨p, hp, hstray⟩
    exact ⟨gather kind ps (p.seriesLabels kind), (mem_seriesOf hk).2 ⟨p, hp, rfl⟩,
      Part.stray_iff.1 hstray⟩

/-- A series of an aggregate has the bound label exactly if a sum or a count with just its labels
carries it; so an aggregate is free of the label exactly if its sums and counts are. -/
theorem bound_label_of_stray (h : parse document = .ok fs) (hf : fs.get? name = some f)
    (hk : f.kind.isAggregate = true) :
    let ps := partsOf (kindsOf (linesIn document)) name (samplesOf (linesIn document))
    (∀ m ∈ f.series, m.hasBoundLabel f.kind = true ↔
      ∃ p ∈ ps, p.Stray f.kind ∧ p.seriesLabels f.kind = m.labels) ∧
    ((∃ m ∈ f.series, m.hasBoundLabel f.kind = true) ↔ ∃ p ∈ ps, p.Stray f.kind) := by
  obtain ⟨-, -, hholds⟩ := lexed_of_parse h
  have hfamily := hholds.family name f hf
  rw [hfamily] at hk ⊢
  exact ⟨fun m hm => hasBoundLabel_iff hk hm, exists_hasBoundLabel_iff hk⟩

def tidy : String :=
  "s_sum\x7bz=\"a\"\x7d 2\n# TYPE s summary\ns\x7bquantile=\"0.5\",z=\"a\"\x7d 1\ns_count 3\n"

theorem bound_label_of_stray_tidy : ∃ fs f, parse tidy = .ok fs ∧ fs.get? "s" = some f ∧
    f.kind.isAggregate = true ∧ f.series.length = 2 ∧
    ∀ m ∈ f.series, m.hasBoundLabel f.kind = false := by
  obtain ⟨fs, hfs, hp⟩ := Environment.exists_of_toOption (x := parse tidy)
    (p := fun fs => (fs.get? "s").any fun f => f.kind = .summary && f.series.length == 2)
    (by decide +kernel)
  obtain ⟨f, hf, hp⟩ := (Option.any_eq_true _ _).1 hp
  obtain ⟨hkind, hlength⟩ : f.kind = .summary ∧ f.series.length = 2 := by simpa using hp
  have hk : f.kind.isAggregate = true := by
    rw [hkind]
    rfl
  have hnone : ¬∃ p ∈ partsOf (kindsOf (linesIn tidy)) "s" (samplesOf (linesIn tidy)),
      p.Stray f.kind := by
    rw [hkind]
    decide +kernel
  obtain ⟨-, hany⟩ := bound_label_of_stray hfs hf hk
  refine ⟨fs, f, hfs, hf, hk, hlength, fun m hm => ?_⟩
  exact Bool.eq_false_iff.2 fun hb => hnone (hany.1 ⟨m, hm, hb⟩)

def torn : String := "# TYPE h histogram\nh_bucket\x7ble=\"1\"\x7d 2\nh_sum\x7ble=\"1\"\x7d 3\n"

theorem bound_label_of_torn : ∃ fs f m, parse torn = .ok fs ∧ fs.get? "h" = some f ∧
    f.kind = .histogram ∧ m ∈ f.series ∧ m.labels.get? "le" = some "1" := by
  obtain ⟨fs, hfs, hp⟩ := Environment.exists_of_toOption (x := parse torn)
    (p := fun fs => (fs.get? "h").any fun f => f.kind = .histogram &&
      f.series.any fun m => m.labels.get? "le" = some "1")
    (by decide +kernel)
  obtain ⟨f, hf, hp⟩ := (Option.any_eq_true _ _).1 hp
  simp only [Bool.and_eq_true, decide_eq_true_eq, List.any_eq_true] at hp
  obtain ⟨hkind, m, hm, hlabel⟩ := hp
  exact ⟨fs, f, m, hfs, hf, hkind, hm, hlabel⟩

end Testbed.Metrics
