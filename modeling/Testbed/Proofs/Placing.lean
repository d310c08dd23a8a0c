import Testbed.Proofs.Families
import Testbed.Proofs.Lexing

/-!
Written lines find their way back. A line that is written for a series plays its part in the
family of the series, and the lines of a series make up the series again.
-/
namespace Testbed.Metrics

theorem stem?_append (suffix_ base : String) : stem? suffix_ (base ++ suffix_) = some base := by
  have hsuffix : suffix_.toList.isSuffixOf (base ++ suffix_).toList := by
    simp [String.toList_append]
  rw [stem?, if_pos hsuffix]
  simp [String.toList_append]

theorem eq_of_stem? {suffix_ name base : String} (h : stem? suffix_ name = some base) :
    name = base ++ suffix_ := by
  rw [stem?] at h
  split at h
  · next hs =>
    obtain ⟨t, ht⟩ := List.isSuffixOf_iff_suffix.1 hs
    cases h
    rw [← String.toList_inj, String.toList_append, String.toList_ofList, ← ht]
    simp
  · cases h

theorem stem?_of_ends {suffix_ other : String} (hs : 2 ≤ suffix_.toList.reverse.length)
    (ho : 2 ≤ other.toList.reverse.length)
    (hne : suffix_.toList.reverse.take 2 ≠ other.toList.reverse.take 2) (base : String) :
    stem? suffix_ (base ++ other) = none := by
  cases hstem : stem? suffix_ (base ++ other) with
  | none => rfl
  | some stem =>
    have heq := congrArg (fun s => s.toList.reverse.take 2) (eq_of_stem? hstem)
    simp only [String.toList_append, List.reverse_append, List.take_append_of_le_length hs,
      List.take_append_of_le_length ho] at heq
    exact absurd heq.symm hne

theorem filter_stem?_eq_none {kinds : Table Kind} {p : Kind → Bool} {suffix_ name : String}
    (h : ∀ base, name = base ++ suffix_ → declaredAs kinds p base = false) :
    (stem? suffix_ name).filter (declaredAs kinds p) = none := by
  cases hs : stem? suffix_ name with
  | none => rfl
  | some base => simp [h base (eq_of_stem? hs)]

/-- Kinds that leave a name, and the names of the lines of its family, to the family. -/
structure Settled (kinds : Table Kind) (name : String) (kind : Kind) : Prop where
  declared : kinds.get? name = some kind
  bucket : ∀ base, name = base ++ "_bucket" → declaredAs kinds (· = .histogram) base = false
  sum : ∀ base, name = base ++ "_sum" → declaredAs kinds Kind.isAggregate base = false
  count : ∀ base, name = base ++ "_count" → declaredAs kinds Kind.isAggregate base = false

variable {kinds : Table Kind} {name : String} {kind : Kind}

theorem Settled.resolve_name (h : Settled kinds name kind) :
    resolve kinds name = (name, .value) := by
  simp [resolve, List.findSome?, filter_stem?_eq_none h.bucket, filter_stem?_eq_none h.sum,
    filter_stem?_eq_none h.count]

theorem Settled.filter_declaredAs (h : Settled kinds name kind) {p : Kind → Bool} (hp : p kind) :
    (some name).filter (declaredAs kinds p) = some name := by
  simp [Option.filter, declaredAs, h.declared, hp]

theorem Settled.resolve_bucket (h : Settled kinds name .histogram) :
    resolve kinds (name ++ "_bucket") = (name, .bucket) := by
  have hfilter := h.filter_declaredAs (p := (· = .histogram)) rfl
  simp [resolve, List.findSome?, stem?_append, hfilter]

theorem Settled.resolve_sum (h : Settled kinds name kind) (hk : kind.isAggregate) :
    resolve kinds (name ++ "_sum") = (name, .sum) := by
  have hbucket : stem? "_bucket" (name ++ "_sum") = none :=
    stem?_of_ends (by decide) (by decide) (by decide) name
  simp [resolve, List.findSome?, stem?_append, h.filter_declaredAs hk, hbucket]

theorem Settled.resolve_count (h : Settled kinds name kind) (hk : kind.isAggregate) :
    resolve kinds (name ++ "_count") = (name, .count) := by
  have hbucket : stem? "_bucket" (name ++ "_count") = none :=
    stem?_of_ends (by decide) (by decide) (by decide) name
  have hsum : stem? "_sum" (name ++ "_count") = none :=
    stem?_of_ends (by decide) (by decide) (by decide) name
  simp [resolve, List.findSome?, stem?_append, h.filter_declaredAs hk, hbucket, hsum]

structure Placed (kinds : Table Kind) (name : String) (kind : Kind) (labels : Labels) (role : Role)
    (x : Float) (timestamp : Option Int) (w : Written) : Prop where
  written : w.sample.WellFormed
  family : familyName kinds w.sample = name
  role : (part kinds w.sample).role = role
  admissible : (part kinds w.sample).Admissible kind
  labels : kind.isAggregate → (part kinds w.sample).seriesLabels kind = labels
  value : w.sample.value = x
  timestamp : w.sample.timestamp = timestamp

theorem IsName.append {start continue_ : Char → Bool} {name suffix_ : List Char}
    (h : IsName start continue_ name) (hs : suffix_.all continue_) :
    IsName start continue_ (name ++ suffix_) := by
  obtain ⟨c, r, rfl, hc, hr⟩ := h
  exact ⟨c, r ++ suffix_, rfl, hc, by rw [List.all_append, hr, hs]; rfl⟩

variable {labels : Labels} {x : Float} {timestamp : Option Int} {w : Written}

structure Writable (kinds : Table Kind) (name : String) (kind : Kind) (labels : Labels)
    (timestamp : Option Int) : Prop where
  settled : Settled kinds name kind
  name : IsName isNameStart isNameContinue name.toList
  names : ∀ e ∈ labels.entries, IsName isLabelStart isLabelContinue e.1.toList
  range : ∀ t ∈ timestamp, Decimal.inInt64 t
  unbounded : kind.isAggregate → labels.get? (boundLabel kind) = none

theorem Writable.placed (h : Writable kinds name kind labels timestamp) {lineName : String}
    (hname : IsName isNameStart isNameContinue lineName.toList) {role : Role}
    (hres : resolve kinds lineName = (name, role)) {pairs : List (String × String)}
    (hw : w.Says lineName pairs x timestamp)
    (hpairs : ∀ p ∈ pairs, IsName isLabelStart isLabelContinue p.1.toList)
    (hnodup : (pairs.map (·.1)).Nodup)
    (hfits : kind.isAggregate → Part.Fits kind ⟨role, w.sample⟩)
    (hlabels : kind.isAggregate → Part.seriesLabels kind ⟨role, w.sample⟩ = labels) :
    Placed kinds name kind labels role x timestamp w := by
  have hpart : part kinds w.sample = ⟨role, w.sample⟩ := by rw [part, hw.name, hres]
  refine ⟨⟨?_, ?_, ?_⟩, ?_, ?_, ⟨?_, ?_⟩, ?_, hw.value, hw.timestamp⟩
  · rw [hw.name]
    exact hname
  · exact fun p hp => hpairs p (hw.labels.mem_iff.1 hp)
  · rw [hw.timestamp]
    exact h.range
  · rw [familyName, hw.name, hres]
  · rw [hpart]
  · rw [hpart]
    exact (hw.labels.map _).nodup_iff.2 hnodup
  · rwa [hpart]
  · rwa [hpart]

theorem Writable.placed_simple (h : Writable kinds name kind labels timestamp)
    (hk : kind.isAggregate = false) (hw : w.Says name labels.entries x timestamp) :
    Placed kinds name kind labels .value x timestamp w :=
  h.placed h.name h.settled.resolve_name hw h.names labels.nodup_keys (by simp [hk]) (by simp [hk])

theorem Writable.placed_total (h : Writable kinds name kind labels timestamp) {lineName : String}
    (hname : IsName isNameStart isNameContinue lineName.toList) {role : Role}
    (hr : role = .sum ∨ role = .count) (hres : resolve kinds lineName = (name, role))
    (hw : w.Says lineName labels.entries x timestamp) :
    Placed kinds name kind labels role x timestamp w := by
  have hlabels : Table.ofList w.sample.labels = labels := Table.ofList_of_perm hw.labels
  refine h.placed hname hres hw h.names labels.nodup_keys (fun _ => ?_) (fun _ => ?_)
  · rcases hr with rfl | rfl <;> trivial
  · rcases hr with rfl | rfl <;> exact hlabels

theorem Part.fits_of_bound {p : Part} (hk : kind.isAggregate) (hr : p.role = boundRole kind)
    (hb : (p.bound? kind).isSome) : p.Fits kind := by
  cases kind with
  | counter | gauge | untyped => cases hk
  | histogram | summary => simp [Fits, hr, boundRole, hb]

theorem Part.seriesLabels_of_bound {p : Part} (hr : p.role = boundRole kind) :
    p.seriesLabels kind = p.labels.erase (boundLabel kind) := by
  unfold boundRole at hr
  split at hr <;> simp [seriesLabels, hr]

theorem boundLabel_isName (kind : Kind) :
    IsName isLabelStart isLabelContinue (boundLabel kind).toList := by
  cases kind
  case histogram => exact ⟨'l', ['e'], rfl, rfl, by decide⟩
  all_goals exact ⟨'q', "uantile".toList, rfl, rfl, by decide⟩

theorem Writable.placed_bounded (h : Writable kinds name kind labels timestamp)
    (hk : kind.isAggregate) {lineName : String}
    (hname : IsName isNameStart isNameContinue lineName.toList)
    (hres : resolve kinds lineName = (name, boundRole kind)) {bound : Float}
    (hw : w.SaysBounded lineName (boundLabel kind) bound labels.entries x timestamp) :
    Placed kinds name kind labels (boundRole kind) x timestamp w ∧
      (part kinds w.sample).bound? kind = some bound := by
  obtain ⟨raw, hraw, hw⟩ := hw
  have hnone := h.unbounded hk
  have hlabels : Table.ofList w.sample.labels = labels.insert (boundLabel kind) raw :=
    Table.ofList_of_perm_cons hw.labels hnone
  have hbound : Part.bound? kind ⟨boundRole kind, w.sample⟩ = some bound := by
    simp [Part.bound?, Part.labels, hlabels, Table.get?_insert, hraw]
  have hnames : ∀ p ∈ (boundLabel kind, raw) :: labels.entries,
      IsName isLabelStart isLabelContinue p.1.toList :=
    List.forall_mem_cons.2 ⟨boundLabel_isName kind, h.names⟩
  refine ⟨h.placed hname hres hw hnames (Table.nodup_keys_cons hnone raw) (fun _ => ?_)
    (fun _ => ?_), ?_⟩
  · exact Part.fits_of_bound hk rfl (by rw [hbound]; rfl)
  · rw [Part.seriesLabels_of_bound rfl, Part.labels, hlabels, Table.erase_insert hnone]
  · rw [part, hw.name, hres, hbound]

theorem Writable.placed_bucket (h : Writable kinds name .histogram labels timestamp)
    {bound : Float} (hw : w.SaysBounded (name ++ "_bucket") "le" bound labels.entries x timestamp) :
    Placed kinds name .histogram labels .bucket x timestamp w ∧
      (part kinds w.sample).bound? .histogram = some bound := by
  refine h.placed_bounded rfl ?_ h.settled.resolve_bucket hw
  rw [String.toList_append]
  exact h.name.append (by decide)

theorem Writable.placed_quantile (h : Writable kinds name .summary labels timestamp)
    {rank : Float} (hw : w.SaysBounded name "quantile" rank labels.entries x timestamp) :
    Placed kinds name .summary labels .value x timestamp w ∧
      (part kinds w.sample).bound? .summary = some rank :=
  h.placed_bounded rfl h.name h.settled.resolve_name hw

theorem Writable.placed_sum (h : Writable kinds name kind labels timestamp) (hk : kind.isAggregate)
    (hw : w.Says (name ++ "_sum") labels.entries x timestamp) :
    Placed kinds name kind labels .sum x timestamp w := by
  refine h.placed_total ?_ (.inl rfl) (h.settled.resolve_sum hk) hw
  rw [String.toList_append]
  exact h.name.append (by decide)

theorem Writable.placed_count (h : Writable kinds name kind labels timestamp)
    (hk : kind.isAggregate) (hw : w.Says (name ++ "_count") labels.entries x timestamp) :
    Placed kinds name kind labels .count x timestamp w := by
  refine h.placed_total ?_ (.inr rfl) (h.settled.resolve_count hk) hw
  rw [String.toList_append]
  exact h.name.append (by decide)

theorem lastTimestamp_of_all {ps : List Part} (hne : ps ≠ [])
    (h : ∀ p ∈ ps, p.sample.timestamp = timestamp) : lastTimestamp ps = timestamp := by
  rcases List.eq_nil_or_concat ps with rfl | ⟨init, p, rfl⟩
  · exact absurd rfl hne
  · cases timestamp with
    | none =>
      have hnone : (init ++ [p]).filterMap (·.sample.timestamp) = [] :=
        List.filterMap_eq_nil_iff.2 fun q hq => h q (by simpa using hq)
      rw [List.concat_eq_append, lastTimestamp, hnone, List.getLast?_nil]
    | some t =>
      rw [List.concat_eq_append, lastTimestamp_concat, h p (by simp)]
      rfl

def partsFrom (kinds : Table Kind) (lines : List Written) : List Part :=
  lines.map fun w => part kinds w.sample

theorem lastOf_partsFrom {ws : List Written} {s c : Written}
    (hs : (part kinds s.sample).role = .sum) (hc : (part kinds c.sample).role = .count) :
    lastOf .sum (partsFrom kinds (ws ++ [s, c])) = s.sample.value ∧
      lastOf .count (partsFrom kinds (ws ++ [s, c])) = c.sample.value := by
  rw [partsFrom, List.map_append, List.map_cons, List.map_cons, List.map_nil, List.append_cons,
    lastOf_concat, lastOf_concat, lastOf_concat, hs, hc]
  exact ⟨rfl, rfl⟩

theorem filterMap_partsFrom {α : Type} {f : Part → Option α} {bs : List (α × Written)}
    {s c : Written} (hbs : ∀ b ∈ bs, f (part kinds b.2.sample) = some b.1)
    (hs : f (part kinds s.sample) = none) (hc : f (part kinds c.sample) = none) :
    (partsFrom kinds (bs.map (·.2) ++ [s, c])).filterMap f = bs.map (·.1) := by
  have hbounded : (partsFrom kinds (bs.map (·.2))).filterMap f = bs.map (·.1) := by
    rw [partsFrom, List.map_map, List.filterMap_map]
    exact (List.filterMap_congr hbs).trans (congrFun List.filterMap_eq_map' bs)
  rw [partsFrom, List.map_append, ← partsFrom, List.filterMap_append, hbounded]
  simp [hs, hc]

theorem Placed.bucket? (h : Placed kinds name kind labels .bucket x timestamp w) {bound : Float}
    (hb : (part kinds w.sample).bound? .histogram = some bound) :
    (part kinds w.sample).bucket? = some ⟨bound, x⟩ := by
  rw [Part.bucket?, if_pos h.role, hb, ← h.value]
  rfl

theorem Placed.bucket?_eq_none {role : Role} (h : Placed kinds name kind labels role x timestamp w)
    (hr : role ≠ .bucket) : (part kinds w.sample).bucket? = none := by
  rw [Part.bucket?, h.role, if_neg hr]

theorem Placed.quantile?_eq_none {role : Role}
    (h : Placed kinds name kind labels role x timestamp w) (hr : role ≠ .value) :
    (part kinds w.sample).quantile? = none := by
  rw [Part.quantile?, h.role, if_neg hr]

theorem Placed.quantile? (h : Placed kinds name kind labels .value x timestamp w) {rank : Float}
    (hb : (part kinds w.sample).bound? .summary = some rank) :
    (part kinds w.sample).quantile? = some ⟨rank, x⟩ := by
  rw [Part.quantile?, if_pos h.role, hb, ← h.value]
  rfl

variable {m : Series} {lines : List Written}

theorem Writes.placed (h : Writes name m lines)
    (hw : Writable kinds name kind m.labels m.timestamp) (hv : m.value.OfKind kind) :
    ∀ w ∈ lines, ∃ role x, Placed kinds name kind m.labels role x m.timestamp w := by
  cases h with
  | simple h =>
    intro w hmem
    rw [List.mem_singleton.1 hmem]
    exact ⟨_, _, hw.placed_simple hv h⟩
  | histogram hbs hs hc =>
    obtain rfl : kind = .histogram := hv
    intro w hmem
    simp only [List.mem_append, List.mem_map, List.mem_cons, List.not_mem_nil, or_false] at hmem
    rcases hmem with ⟨g, hg, rfl⟩ | rfl | rfl
    · exact ⟨_, _, (hw.placed_bucket (hbs g hg)).1⟩
    · exact ⟨_, _, hw.placed_sum rfl hs⟩
    · exact ⟨_, _, hw.placed_count rfl hc⟩
  | summary hqs hs hc =>
    obtain rfl : kind = .summary := hv
    intro w hmem
    simp only [List.mem_append, List.mem_map, List.mem_cons, List.not_mem_nil, or_false] at hmem
    rcases hmem with ⟨g, hg, rfl⟩ | rfl | rfl
    · exact ⟨_, _, (hw.placed_quantile (hqs g hg)).1⟩
    · exact ⟨_, _, hw.placed_sum rfl hs⟩
    · exact ⟨_, _, hw.placed_count rfl hc⟩

theorem Writes.simple_eq (h : Writes name m lines)
    (hw : Writable kinds name kind m.labels m.timestamp) (hv : m.value.OfKind kind)
    (hk : kind.isAggregate = false) : lines.map (fun w => (part kinds w.sample).simple) = [m] := by
  cases h with
  | simple h =>
    simp [Part.simple, Part.labels, part, Table.ofList_of_perm h.labels, h.value, h.timestamp]
  | histogram | summary =>
    cases hv
    cases hk

theorem Writes.gatherValue_eq (h : Writes name m lines)
    (hw : Writable kinds name kind m.labels m.timestamp) (hv : m.value.OfKind kind)
    (hk : kind.isAggregate) : gatherValue kind (partsFrom kinds lines) = m.value := by
  cases h with
  | simple h =>
    rw [Value.OfKind, hk] at hv
    cases hv
  | histogram hbs hs hc =>
    obtain rfl : kind = .histogram := hv
    have hs := hw.placed_sum rfl hs
    have hc := hw.placed_count rfl hc
    obtain ⟨hsum, hcount⟩ := lastOf_partsFrom hs.role hc.role
    have hbuckets := filterMap_partsFrom
      (fun g hg => (hw.placed_bucket (hbs g hg)).1.bucket? (hw.placed_bucket (hbs g hg)).2)
      (hs.bucket?_eq_none (by decide)) (hc.bucket?_eq_none (by decide))
    rw [gatherValue, if_pos rfl, hsum, hcount, hbuckets, hs.value, hc.value]
  | summary hqs hs hc =>
    obtain rfl : kind = .summary := hv
    have hs := hw.placed_sum rfl hs
    have hc := hw.placed_count rfl hc
    obtain ⟨hsum, hcount⟩ := lastOf_partsFrom hs.role hc.role
    have hquantiles := filterMap_partsFrom
      (fun g hg => (hw.placed_quantile (hqs g hg)).1.quantile? (hw.placed_quantile (hqs g hg)).2)
      (hs.quantile?_eq_none (by decide)) (hc.quantile?_eq_none (by decide))
    rw [gatherValue, if_neg (by decide), hsum, hcount, hquantiles, hs.value, hc.value]

theorem Writes.ne_nil (h : Writes name m lines) : lines ≠ [] := by
  cases h <;> simp

theorem Writes.lastTimestamp_eq (h : Writes name m lines)
    (hw : Writable kinds name kind m.labels m.timestamp) (hv : m.value.OfKind kind) :
    lastTimestamp (partsFrom kinds lines) = m.timestamp := by
  refine lastTimestamp_of_all (fun hnil => h.ne_nil (List.map_eq_nil_iff.1 hnil)) fun p hp => ?_
  obtain ⟨w, hmem, rfl⟩ := List.mem_map.1 hp
  obtain ⟨_, _, hplaced⟩ := h.placed hw hv w hmem
  exact hplaced.timestamp

section Groups

variable {α β γ : Type} [DecidableEq γ] {as : List α} {items : α → List β} {key : β → γ}
  {label : α → γ}

theorem filter_groups (hd : (as.map label).Nodup) (h : ∀ a ∈ as, ∀ b ∈ items a, key b = label a)
    {a : α} (ha : a ∈ as) : (as.flatMap items).filter (fun b => key b = label a) = items a := by
  induction as with
  | nil => cases ha
  | cons c as ih =>
    obtain ⟨hc, hd⟩ := List.nodup_cons.1 hd
    obtain ⟨hfirst, hrest⟩ := List.forall_mem_cons.1 h
    rw [List.flatMap_cons, List.filter_append]
    rcases List.mem_cons.1 ha with rfl | ha
    · have hall : (items a).filter (fun b => key b = label a) = items a :=
        List.filter_eq_self.2 fun b hb => by simp [hfirst b hb]
      have hnone : (as.flatMap items).filter (fun b => key b = label a) = [] := by
        refine List.filter_eq_nil_iff.2 fun b hb => ?_
        obtain ⟨a', ha', hb⟩ := List.mem_flatMap.1 hb
        have hne : label a' ≠ label a := fun heq => hc (List.mem_map.2 ⟨a', ha', heq⟩)
        simp [hrest a' ha' b hb, hne]
      rw [hall, hnone, List.append_nil]
    · have hne : label c ≠ label a := fun heq => hc (List.mem_map.2 ⟨a, ha, heq.symm⟩)
      have hnone : (items c).filter (fun b => key b = label a) = [] :=
        List.filter_eq_nil_iff.2 fun b hb => by simp [hfirst b hb, hne]
      rw [hnone, List.nil_append, ih hd hrest ha]

theorem eraseDups_groups (hd : (as.map label).Nodup)
    (h : ∀ a ∈ as, ∀ b ∈ items a, key b = label a) (hne : ∀ a ∈ as, items a ≠ []) :
    ((as.flatMap items).map key).eraseDups = as.map label := by
  induction as with
  | nil => rfl
  | cons c as ih =>
    obtain ⟨hc, hd⟩ := List.nodup_cons.1 hd
    obtain ⟨hfirst, hrest⟩ := List.forall_mem_cons.1 h
    obtain ⟨hsome, hsomes⟩ := List.forall_mem_cons.1 hne
    cases hitems : items c with
    | nil => exact absurd hitems hsome
    | cons b bs =>
      -- The first item stands for its group, and no other group has its label.
      rw [hitems] at hfirst
      obtain ⟨hb, hbs⟩ := List.forall_mem_cons.1 hfirst
      have hsame : (bs.map key).filter (fun k => !k == label c) = [] := by
        refine List.filter_eq_nil_iff.2 fun k hk => ?_
        obtain ⟨b, hmem, rfl⟩ := List.mem_map.1 hk
        simp [hbs b hmem]
      have hothers : ((as.flatMap items).map key).filter (fun k => !k == label c) =
          (as.flatMap items).map key := by
        refine List.filter_eq_self.2 fun k hk => ?_
        obtain ⟨b, hmem, rfl⟩ := List.mem_map.1 hk
        obtain ⟨a, ha, hmem⟩ := List.mem_flatMap.1 hmem
        have hne : label a ≠ label c := fun heq => hc (List.mem_map.2 ⟨a, ha, heq⟩)
        simp [hrest a ha b hmem, hne]
      rw [List.flatMap_cons, hitems, List.map_append, List.map_cons, List.cons_append, hb,
        List.eraseDups_cons, List.filter_append, hsame, hothers, List.nil_append,
        ih hd hrest hsomes, List.map_cons]

end Groups

/-- Parts that belong to series with different labels make up the series. -/
theorem seriesOf_flatMap (hk : kind.isAggregate) {α : Type} {as : List α} {items : α → List Part}
    {series : α → Series} (hd : (as.map fun a => (series a).labels).Nodup)
    (hlabels : ∀ a ∈ as, ∀ p ∈ items a, p.seriesLabels kind = (series a).labels)
    (hne : ∀ a ∈ as, items a ≠ [])
    (hvalue : ∀ a ∈ as, gatherValue kind (items a) = (series a).value)
    (htimestamp : ∀ a ∈ as, lastTimestamp (items a) = (series a).timestamp) :
    seriesOf kind (as.flatMap items) = as.map series := by
  rw [seriesOf, if_pos hk, eraseDups_groups hd hlabels hne, List.map_map]
  refine List.map_congr_left fun a ha => ?_
  have hlines : linesOf kind (as.flatMap items) (series a).labels = items a :=
    filter_groups hd hlabels ha
  rw [Function.comp_apply, gather, hlines, hvalue a ha, htimestamp a ha]

variable {f : Family}

theorem Family.WellFormed.writable (h : f.WellFormed name) (hs : Settled kinds name f.kind)
    (hm : m ∈ f.series) : Writable kinds name f.kind m.labels m.timestamp :=
  ⟨hs, h.name, (h.series m hm).labels, (h.series m hm).timestamp, (h.series m hm).unbounded⟩

theorem WrittenFamily.mem_series {w : WrittenFamily} {g : Series × List Written}
    (hg : g ∈ w.series) : g.1 ∈ w.family.series :=
  w.all ▸ List.mem_map_of_mem hg

theorem WrittenFamily.seriesOf_samples {w : WrittenFamily} (h : w.family.WellFormed w.name)
    (hs : Settled kinds w.name w.family.kind) :
    seriesOf w.family.kind (partsFrom kinds w.samples) = w.family.series := by
  have hwritable := fun (g : Series × List Written) (hg : g ∈ w.series) =>
    h.writable hs (w.mem_series hg)
  have hvalue := fun (g : Series × List Written) (hg : g ∈ w.series) =>
    (h.series g.1 (w.mem_series hg)).value
  have hparts : partsFrom kinds w.samples = w.series.flatMap fun g => partsFrom kinds g.2 :=
    List.map_flatMap
  rw [hparts, ← w.all]
  by_cases hk : w.family.kind.isAggregate
  · refine seriesOf_flatMap hk ?_ ?_ ?_ ?_ ?_
    · have hd := h.distinct hk
      rwa [← w.all, List.map_map] at hd
    · intro g hg p hp
      obtain ⟨v, hv, rfl⟩ := List.mem_map.1 hp
      obtain ⟨_, _, hplaced⟩ := (w.writes g hg).placed (hwritable g hg) (hvalue g hg) v hv
      exact hplaced.labels hk
    · exact fun g hg hnil => (w.writes g hg).ne_nil (List.map_eq_nil_iff.1 hnil)
    · exact fun g hg => (w.writes g hg).gatherValue_eq (hwritable g hg) (hvalue g hg) hk
    · exact fun g hg => (w.writes g hg).lastTimestamp_eq (hwritable g hg) (hvalue g hg)
  · have hk := Bool.eq_false_iff.2 hk
    have heach : ∀ g ∈ w.series, (partsFrom kinds g.2).map Part.simple = [g.1] := by
      intro g hg
      rw [partsFrom, List.map_map]
      exact (w.writes g hg).simple_eq (hwritable g hg) (hvalue g hg) hk
    rw [seriesOf, if_neg (by simp [hk]), List.map_flatMap, List.flatMap_congr heach]
    exact List.map_eq_flatMap.symm

end Testbed.Metrics
