import Mathlib.Data.List.Induction
import Mathlib.Logic.Function.Basic
import Testbed.Proofs.Outline

/-!
What the families of a document hold, told by its samples. A sample plays a part in one family;
the parts of a family make up its series, for an aggregate one for each label set.
-/
namespace Testbed.Metrics

structure Part where
  role : Role
  sample : Sample

namespace Part

def labels (p : Part) : Labels := .ofList p.sample.labels

def seriesLabels (kind : Kind) (p : Part) : Labels :=
  match p.role with
  | .bucket | .value => p.labels.erase (boundLabel kind)
  | .sum | .count => p.labels

def bound? (kind : Kind) (p : Part) : Option Float :=
  (p.labels.get? (boundLabel kind)).bind fun raw => Decimal.readFloat raw.toList

def bucket? (p : Part) : Option Bucket :=
  if p.role = .bucket then (p.bound? .histogram).map fun b => ⟨b, p.sample.value⟩ else none

def quantile? (p : Part) : Option Quantile :=
  if p.role = .value then (p.bound? .summary).map fun q => ⟨q, p.sample.value⟩ else none

def simple (p : Part) : Series := ⟨p.labels, .simple p.sample.value, p.sample.timestamp⟩

def Fits (kind : Kind) (p : Part) : Prop :=
  match p.role with
  | .bucket => kind = .histogram ∧ (p.bound? kind).isSome
  | .value => kind = .summary ∧ (p.bound? kind).isSome
  | .sum | .count => True

structure Admissible (kind : Kind) (p : Part) : Prop where
  names : (p.sample.labels.map (·.1)).Nodup
  fits : kind.isAggregate → p.Fits kind

end Part

def lastOf (role : Role) (ps : List Part) : Float :=
  ((ps.filter (·.role = role)).getLast?.map (·.sample.value)).getD 0.0

def lastTimestamp (ps : List Part) : Option Int := (ps.filterMap (·.sample.timestamp)).getLast?

def gatherValue (kind : Kind) (ps : List Part) : Value :=
  if kind = .histogram then
    .histogram (lastOf .sum ps) (lastOf .count ps) (ps.filterMap Part.bucket?)
  else .summary (lastOf .sum ps) (lastOf .count ps) (ps.filterMap Part.quantile?)

def linesOf (kind : Kind) (ps : List Part) (labels : Labels) : List Part :=
  ps.filter (·.seriesLabels kind = labels)

def gather (kind : Kind) (ps : List Part) (labels : Labels) : Series :=
  let own := linesOf kind ps labels
  ⟨labels, gatherValue kind own, lastTimestamp own⟩

/-- The series of a family, in the order in which its parts first call for them. -/
def seriesOf (kind : Kind) (ps : List Part) : List Series :=
  if kind.isAggregate then ((ps.map (Part.seriesLabels kind)).eraseDups).map (gather kind ps)
  else ps.map Part.simple

variable {kind : Kind} {ps : List Part} {p : Part} {f : Family}

theorem lastOf_concat (role : Role) (ps : List Part) (p : Part) :
    lastOf role (ps ++ [p]) = if p.role = role then p.sample.value else lastOf role ps := by
  by_cases h : p.role = role <;> simp [lastOf, h]

theorem lastTimestamp_concat (ps : List Part) (p : Part) :
    lastTimestamp (ps ++ [p]) = (p.sample.timestamp <|> lastTimestamp ps) := by
  rw [lastTimestamp, filterMap_concat]
  cases h : p.sample.timestamp <;> simp [lastTimestamp]

variable (ps) in
theorem Value.fold_gatherValue {v : Value} (hk : kind.isAggregate) {bound : Option Float}
    (hb : p.role = .bucket ∨ p.role = .value → bound = p.bound? kind) :
    (gatherValue kind ps).fold p.role bound p.sample.value = some v ↔
      p.Fits kind ∧ v = gatherValue kind (ps ++ [p]) := by
  cases kind with
  | counter | gauge | untyped => cases hk
  | histogram =>
    cases hr : p.role with
    | bucket =>
      have hb := hb (.inl hr)
      cases hbound : p.bound? .histogram <;>
        simp [gatherValue, Value.fold, Part.Fits, Part.bucket?, lastOf_concat, hr, hb, hbound,
          eq_comm]
    | value => cases bound <;> simp [gatherValue, Value.fold, Part.Fits, hr]
    | sum | count =>
      simp [gatherValue, Value.fold, Part.Fits, Part.bucket?, lastOf_concat, hr, eq_comm]
  | summary =>
    cases hr : p.role with
    | value =>
      have hb := hb (.inr hr)
      cases hbound : p.bound? .summary <;>
        simp [gatherValue, Value.fold, Part.Fits, Part.quantile?, lastOf_concat, hr, hb, hbound,
          eq_comm]
    | bucket => cases bound <;> simp [gatherValue, Value.fold, Part.Fits, hr]
    | sum | count =>
      simp [gatherValue, Value.fold, Part.Fits, Part.quantile?, lastOf_concat, hr, eq_comm]

variable (ps) in
theorem Series.fold_gather {labels : Labels} {m : Series} (hk : kind.isAggregate)
    (hl : p.seriesLabels kind = labels) {bound : Option Float}
    (hb : p.role = .bucket ∨ p.role = .value → bound = p.bound? kind) :
    (gather kind ps labels).fold p.role bound p.sample = .ok m ↔
      p.Fits kind ∧ m = gather kind (ps ++ [p]) labels := by
  have hlines : linesOf kind (ps ++ [p]) labels = linesOf kind ps labels ++ [p] := by
    simp [linesOf, hl]
  have hvalue := fun v => Value.fold_gatherValue (linesOf kind ps labels) (v := v) hk hb
  rw [Series.fold, gather, gather, hlines, lastTimestamp_concat]
  cases hv : (gatherValue kind (linesOf kind ps labels)).fold p.role bound p.sample.value with
  | none =>
    have hmisfit : ¬p.Fits kind := fun hf => by simp [(hvalue _).2 ⟨hf, rfl⟩] at hv
    simp [hmisfit]
  | some v =>
    obtain ⟨hf, rfl⟩ := (hvalue v).1 hv
    simp [hf, eq_comm]

theorem gather_concat_of_ne {labels : Labels} (h : p.seriesLabels kind ≠ labels) :
    gather kind (ps ++ [p]) labels = gather kind ps labels := by
  simp [gather, linesOf, h]

theorem gather_of_not_mem {labels : Labels}
    (h : labels ∉ ps.map (Part.seriesLabels kind)) :
    gather kind ps labels = ⟨labels, Value.empty kind, none⟩ := by
  have hnone : linesOf kind ps labels = [] := by
    refine List.filter_eq_nil_iff.2 fun p hp => ?_
    have hne : p.seriesLabels kind ≠ labels := fun heq => h (List.mem_map.2 ⟨p, hp, heq⟩)
    simp [hne]
  rw [gather, hnone]
  cases kind <;> rfl

theorem eraseDups_concat {α : Type} [DecidableEq α] (as : List α) (a : α) :
    (as ++ [a]).eraseDups = if a ∈ as then as.eraseDups else as.eraseDups ++ [a] := by
  rw [List.eraseDups_append]
  by_cases h : a ∈ as <;> simp [List.removeAll, List.eraseDups_cons, h]

theorem nodup_concat {α : Type} {as : List α} {a : α} : (as ++ [a]).Nodup ↔ a ∉ as ∧ as.Nodup :=
  (List.perm_append_singleton a as).nodup_iff.trans List.nodup_cons

theorem nodup_eraseDups {α : Type} [DecidableEq α] (as : List α) : as.eraseDups.Nodup := by
  induction as using List.reverseRecOn with
  | nil => exact .nil
  | append_singleton as a ih =>
    rw [eraseDups_concat]
    split
    · exact ih
    · next h =>
      exact nodup_concat.2 ⟨fun ha => h (List.mem_eraseDups.1 ha), ih⟩

theorem foldInto_map {labels : Labels} {step : Series → Except DocumentError Series}
    {g : Labels → Series} (hg : ∀ l, (g l).labels = l) {ls : List Labels} (hd : ls.Nodup)
    (hnew : labels ∉ ls → g labels = ⟨labels, Value.empty kind, none⟩) :
    foldInto kind labels step (ls.map g) = (step (g labels)).map fun m =>
      (if labels ∈ ls then ls else ls ++ [labels]).map (Function.update g labels m) := by
  induction ls with
  | nil =>
    rw [List.map_nil, foldInto, ← hnew List.not_mem_nil]
    cases step (g labels) <;> simp [Except.map, bind, Except.bind, pure, Except.pure]
  | cons l ls ih =>
    obtain ⟨hl, hd⟩ := List.nodup_cons.1 hd
    rw [List.map_cons, foldInto, hg]
    by_cases h : l = labels
    -- The line goes to the first series with its labels, and no later one has them.
    · subst h
      have hrest : ∀ m, ls.map (Function.update g l m) = ls.map g := fun m =>
        List.map_congr_left fun l' hl' => Function.update_of_ne (ne_of_mem_of_not_mem hl' hl) m g
      cases step (g l) <;> simp [Except.map, bind, Except.bind, pure, Except.pure, hrest]
    · have hmem : labels ∈ l :: ls ↔ labels ∈ ls := by simp [Ne.symm h]
      rw [if_neg h, ih hd fun hnot => hnew fun hin => hnot (hmem.1 hin)]
      cases step (g labels) with
      | error e => simp [Except.map, bind, Except.bind]
      | ok m =>
        by_cases hin : labels ∈ ls <;>
          simp [Except.map, bind, Except.bind, pure, Except.pure, hmem, hin,
            Function.update_of_ne h]

variable (ps) in
theorem foldInto_seriesOf {bound : Option Float} (hk : kind.isAggregate)
    (hb : p.role = .bucket ∨ p.role = .value → bound = p.bound? kind) (out : List Series) :
    foldInto kind (p.seriesLabels kind) (Series.fold p.role bound p.sample) (seriesOf kind ps) =
        .ok out ↔ p.Fits kind ∧ out = seriesOf kind (ps ++ [p]) := by
  let labels := p.seriesLabels kind
  let keys := ps.map (Part.seriesLabels kind)
  have hkeys : (ps ++ [p]).map (Part.seriesLabels kind) = keys ++ [labels] := List.map_append
  have hnew : labels ∉ keys.eraseDups → gather kind ps labels = ⟨labels, Value.empty kind, none⟩ :=
    fun h => gather_of_not_mem fun hmem => h (List.mem_eraseDups.2 hmem)
  -- A line changes what is gathered for its own labels only.
  have hupdate : Function.update (gather kind ps) labels (gather kind (ps ++ [p]) labels) =
      gather kind (ps ++ [p]) := by
    funext l
    by_cases h : l = labels
    · rw [h, Function.update_self]
    · rw [Function.update_of_ne h, gather_concat_of_ne (Ne.symm h)]
  have hfold := fun m => Series.fold_gather ps (m := m) hk (rfl : _ = labels) hb
  rw [seriesOf, if_pos hk, seriesOf, if_pos hk, hkeys, eraseDups_concat,
    foldInto_map (fun _ => rfl) (nodup_eraseDups keys) hnew]
  simp only [List.mem_eraseDups]
  cases hm : (gather kind ps labels).fold p.role bound p.sample with
  | error e =>
    have hmisfit : ¬p.Fits kind := fun hf => by simp [(hfold _).2 ⟨hf, rfl⟩] at hm
    simp [Except.map, hmisfit]
  | ok m =>
    obtain ⟨hf, rfl⟩ := (hfold m).1 hm
    simp [Except.map, hupdate, hf, eq_comm]

theorem isSome_get?_ofList {pairs : List (String × String)} {k : String} :
    ((Table.ofList pairs).get? k).isSome ↔ k ∈ pairs.map (·.1) := by
  induction pairs using List.reverseRecOn with
  | nil => simp [Table.ofList]
  | append_singleton pairs p ih =>
    rw [Table.ofList_concat, Table.get?_insert, List.map_append, List.mem_append, ← ih]
    by_cases h : p.1 = k
    · simp [h]
    · simp [h, Ne.symm h]

theorem labelSet_concat (pairs : List (String × String)) (p : String × String) :
    labelSet (pairs ++ [p]) = (labelSet pairs).bind fun t =>
      if t.contains p.1 then .error (.duplicateLabel p.1) else .ok (t.insert p.1 p.2) := by
  rw [labelSet, List.foldlM_append, ← labelSet]
  cases labelSet pairs with
  | error e => rfl
  | ok t => by_cases h : t.contains p.1 <;> simp [bind, Except.bind, pure, Except.pure, h]

theorem labelSet_eq_ok {pairs : List (String × String)} {labels : Labels} :
    labelSet pairs = .ok labels ↔ (pairs.map (·.1)).Nodup ∧ labels = .ofList pairs := by
  induction pairs using List.reverseRecOn generalizing labels with
  | nil =>
    have hempty : labelSet [] = .ok (.ofList []) := rfl
    rw [hempty, Except.ok.injEq]
    simp [eq_comm]
  | append_singleton pairs p ih =>
    have hnodup : ((pairs ++ [p]).map (·.1)).Nodup ↔
        p.1 ∉ pairs.map (·.1) ∧ (pairs.map (·.1)).Nodup := by
      rw [List.map_append, List.map_singleton, nodup_concat]
    rw [labelSet_concat, hnodup, Table.ofList_concat]
    cases hl : labelSet pairs with
    | error e =>
      have hdup : ¬(pairs.map (·.1)).Nodup := fun h => by simp [ih.2 ⟨h, rfl⟩] at hl
      simp [Except.bind, hdup]
    | ok t =>
      obtain ⟨hd, rfl⟩ := ih.1 hl
      have hcontains : (Table.ofList pairs).contains p.1 ↔ p.1 ∈ pairs.map (·.1) := by
        rw [Table.contains_eq, isSome_get?_ofList]
      rw [Except.bind]
      by_cases hp : p.1 ∈ pairs.map (·.1)
      · rw [if_pos (hcontains.2 hp)]
        exact ⟨fun h => (nomatch h), fun h => absurd hp h.1.1⟩
      · rw [if_neg fun h => hp (hcontains.1 h), Except.ok.injEq]
        exact ⟨fun h => ⟨⟨hp, hd⟩, h.symm⟩, fun h => h.2.symm⟩

theorem takeBound_cases (kind : Kind) (p : Part) :
    (∃ bound, takeBound kind p.role p.sample p.labels = .ok (p.seriesLabels kind, bound) ∧
      (p.role = .bucket ∨ p.role = .value → bound = p.bound? kind)) ∨
    (∃ e, takeBound kind p.role p.sample p.labels = .error e) ∧ ¬p.Fits kind := by
  cases hr : p.role with
  | sum | count => exact .inl ⟨none, by simp [takeBound, Part.seriesLabels, hr], by simp⟩
  | bucket | value =>
    cases hl : p.labels.get? (boundLabel kind) with
    | none =>
      refine .inr ⟨⟨.missingBound p.sample.name (boundLabel kind), ?_⟩, ?_⟩
      · simp only [takeBound, hl]
      · simp [Part.Fits, Part.bound?, hr, hl]
    | some raw =>
      cases hb : Decimal.readFloat raw.toList with
      | none =>
        refine .inr ⟨⟨.badBound (boundLabel kind) raw, ?_⟩, ?_⟩
        · simp only [takeBound, hl, hb]
        · simp [Part.Fits, Part.bound?, hr, hl, hb]
      | some b =>
        refine .inl ⟨some b, by simp [takeBound, Part.seriesLabels, hr, hl, hb], ?_⟩
        simp [Part.bound?, hl, hb]

theorem Family.add_eq_ok (hf : f.series = seriesOf f.kind ps) (f' : Family) :
    f.add p.role p.sample = .ok f' ↔
      p.Admissible f.kind ∧ f' = { f with series := seriesOf f.kind (ps ++ [p]) } := by
  cases hl : labelSet p.sample.labels with
  | error e =>
    have hdup : ¬p.Admissible f.kind := fun h => by simp [labelSet_eq_ok.2 ⟨h.names, rfl⟩] at hl
    simp [Family.add, hl, bind, Except.bind, hdup]
  | ok labels =>
    obtain ⟨hnames, rfl⟩ := labelSet_eq_ok.1 hl
    have hadmissible : p.Admissible f.kind ↔ (f.kind.isAggregate → p.Fits f.kind) :=
      ⟨fun h => h.fits, fun h => ⟨hnames, h⟩⟩
    by_cases hk : f.kind.isAggregate
    · rcases takeBound_cases f.kind p with ⟨bound, ht, hb⟩ | ⟨⟨e, ht⟩, hmisfit⟩
      · have hfold := foldInto_seriesOf ps hk hb
        rw [← hf] at hfold
        rw [Part.labels] at ht
        cases ho : foldInto f.kind (p.seriesLabels f.kind) (Series.fold p.role bound p.sample)
            f.series with
        | error e =>
          have hmisfit : ¬p.Fits f.kind := fun h => by simp [(hfold _).2 ⟨h, rfl⟩] at ho
          simp [Family.add, hl, bind, Except.bind, hk, ht, ho, hadmissible, hmisfit]
        | ok out =>
          obtain ⟨hfits, rfl⟩ := (hfold out).1 ho
          simp [Family.add, hl, bind, Except.bind, pure, Except.pure, hk, ht, ho, hadmissible,
            hfits, eq_comm]
      · rw [Part.labels] at ht
        simp [Family.add, hl, bind, Except.bind, hk, ht, hadmissible, hmisfit]
    · simp [Family.add, hl, bind, Except.bind, pure, Except.pure, hk, hadmissible, hf, seriesOf,
        Part.simple, Part.labels, eq_comm]

section Document

variable (kinds : Table Kind) (helps : Table String)

def familyName (s : Sample) : String := (resolve kinds s.name).1

def part (s : Sample) : Part := ⟨(resolve kinds s.name).2, s⟩

def partsOf (name : String) (ss : List Sample) : List Part :=
  (ss.filter (familyName kinds · = name)).map (part kinds)

def kindOf (name : String) : Kind := (kinds.get? name).getD .untyped

def familyOf (name : String) (ss : List Sample) : Family :=
  ⟨helps.get? name, kindOf kinds name, seriesOf (kindOf kinds name) (partsOf kinds name ss)⟩

/-- Families exist for the names that samples belong to, and hold what their samples make up. -/
structure Holds (fs : Families) (ss : List Sample) : Prop where
  names : ∀ name, (fs.get? name).isSome ↔ ∃ s ∈ ss, familyName kinds s = name
  family : ∀ name f, fs.get? name = some f → f = familyOf kinds helps name ss

def AdmissibleIn (s : Sample) : Prop :=
  (part kinds s).Admissible (kindOf kinds (familyName kinds s))

variable {kinds helps} {fs fs' : Families} {ss : List Sample} {s : Sample} {name : String}

theorem partsOf_concat (name : String) (ss : List Sample) (s : Sample) :
    partsOf kinds name (ss ++ [s]) =
      partsOf kinds name ss ++ if familyName kinds s = name then [part kinds s] else [] := by
  by_cases h : familyName kinds s = name <;> simp [partsOf, h]

theorem Holds.partsOf_eq_nil (h : Holds kinds helps fs ss) (hf : fs.get? name = none) :
    partsOf kinds name ss = [] := by
  have hnone : ¬∃ s ∈ ss, familyName kinds s = name := fun hs => by
    simpa [hf] using (h.names name).2 hs
  refine List.map_eq_nil_iff.2 (List.filter_eq_nil_iff.2 fun s hs => ?_)
  simpa using fun heq => hnone ⟨s, hs, heq⟩

theorem Holds.getD (h : Holds kinds helps fs ss) (name : String) :
    (fs.get? name).getD ⟨helps.get? name, kindOf kinds name, []⟩ =
      familyOf kinds helps name ss := by
  cases hf : fs.get? name with
  | some f => exact h.family name f hf
  | none =>
    rw [familyOf, h.partsOf_eq_nil hf]
    cases kindOf kinds name <;> rfl

theorem Holds.concat (h : Holds kinds helps fs ss) (s : Sample) :
    Holds kinds helps (fs.insert (familyName kinds s)
      (familyOf kinds helps (familyName kinds s) (ss ++ [s]))) (ss ++ [s]) := by
  have hother : ∀ name, familyName kinds s ≠ name →
      familyOf kinds helps name (ss ++ [s]) = familyOf kinds helps name ss := by
    intro name hne
    rw [familyOf, familyOf, partsOf_concat, if_neg hne, List.append_nil]
  constructor
  · intro name
    rw [Table.get?_insert]
    by_cases hs : familyName kinds s = name
    · simp [hs]
    · simp [hs, h.names]
  · intro name f hf
    rw [Table.get?_insert] at hf
    by_cases hs : familyName kinds s = name
    · rw [if_pos hs, Option.some.injEq, hs] at hf
      exact hf.symm
    · rw [if_neg hs] at hf
      rw [hother name hs, h.family name f hf]

theorem Holds.unique (h : Holds kinds helps fs ss) (h' : Holds kinds helps fs' ss) : fs = fs' := by
  refine Table.ext_get? fun name => ?_
  have hsome := (h.names name).trans (h'.names name).symm
  cases hf : fs.get? name with
  | none =>
    rw [hf] at hsome
    exact (Option.not_isSome_iff_eq_none.1 fun hs => nomatch hsome.2 hs).symm
  | some f =>
    obtain ⟨f', hf'⟩ := Option.isSome_iff_exists.1 (hsome.1 (by rw [hf]; rfl))
    rw [hf', h.family name f hf, h'.family name f' hf']

theorem attach_eq_ok {o : Outline} (h : Holds o.kinds o.helps fs ss) (n : Nat) (s : Sample) :
    attach o fs (n, s) = .ok fs' ↔ AdmissibleIn o.kinds s ∧
      fs' = fs.insert (familyName o.kinds s)
        (familyOf o.kinds o.helps (familyName o.kinds s) (ss ++ [s])) := by
  let f := familyOf o.kinds o.helps (familyName o.kinds s) ss
  have hadd := Family.add_eq_ok (p := part o.kinds s) (rfl : f.series = _)
  have hget : (fs.get? (resolve o.kinds s.name).1).getD ⟨o.helps.get? (resolve o.kinds s.name).1,
      (o.kinds.get? (resolve o.kinds s.name).1).getD .untyped, []⟩ = f := h.getD _
  have hparts : partsOf o.kinds (familyName o.kinds s) (ss ++ [s]) =
      partsOf o.kinds (familyName o.kinds s) ss ++ [part o.kinds s] := by
    rw [partsOf_concat, if_pos rfl]
  cases ha : f.add (part o.kinds s).role s with
  | error e =>
    have hbad : ¬AdmissibleIn o.kinds s := fun hs => nomatch ha.symm.trans ((hadd _).2 ⟨hs, rfl⟩)
    have hattach : attach o fs (n, s) = .error ⟨n, e⟩ := by
      rw [part] at ha
      simp only [attach, hget, ha]
    rw [hattach]
    exact ⟨fun h => (nomatch h), fun h => absurd h.1 hbad⟩
  | ok f' =>
    obtain ⟨hs, hf'⟩ := (hadd f').1 ha
    have hattach : attach o fs (n, s) = .ok (fs.insert (familyName o.kinds s) f') := by
      rw [part] at ha
      simp only [attach, hget, ha, familyName]
    have hfamily : f' = familyOf o.kinds o.helps (familyName o.kinds s) (ss ++ [s]) := by
      rw [hf', familyOf, hparts]
      rfl
    rw [hattach, ← hfamily, Except.ok.injEq]
    exact ⟨fun h => ⟨hs, h.symm⟩, fun h => h.2.symm⟩

theorem holds_empty : Holds kinds helps {} [] := by
  constructor
  · intro name
    simp [EmptyCollection.emptyCollection]
  · intro name f hf
    cases hf

theorem attached_concat {o : Outline} {numbered : List (Nat × Sample)} {last : Nat × Sample} :
    (numbered ++ [last]).foldlM (attach o) {} = .ok fs' ↔
      ∃ fs, numbered.foldlM (attach o) {} = .ok fs ∧ attach o fs last = .ok fs' := by
  have hlast : ∀ fs, [last].foldlM (attach o) fs = attach o fs last := fun fs => bind_pure _
  rw [List.foldlM_append, bind_eq_ok]
  simp only [hlast]

theorem holds_of_attached {o : Outline} {numbered : List (Nat × Sample)}
    (h : numbered.foldlM (attach o) {} = .ok fs) :
    (∀ s ∈ numbered.map (·.2), AdmissibleIn o.kinds s) ∧
      Holds o.kinds o.helps fs (numbered.map (·.2)) := by
  -- Samples are taken from the end, where the last of them is attached.
  induction numbered using List.reverseRecOn generalizing fs with
  | nil =>
    cases h
    exact ⟨fun s hs => (nomatch hs), holds_empty⟩
  | append_singleton numbered last ih =>
    obtain ⟨n, s⟩ := last
    obtain ⟨before, hbefore, hlast⟩ := attached_concat.1 h
    obtain ⟨hadmissible, hholds⟩ := ih hbefore
    obtain ⟨hs, rfl⟩ := (attach_eq_ok hholds n s).1 hlast
    rw [List.map_append, List.map_singleton]
    refine ⟨fun s' hs' => ?_, hholds.concat s⟩
    rcases List.mem_append.1 hs' with hs' | hs'
    · exact hadmissible s' hs'
    · exact List.mem_singleton.1 hs' ▸ hs

theorem exists_attached {o : Outline} {numbered : List (Nat × Sample)}
    (h : ∀ s ∈ numbered.map (·.2), AdmissibleIn o.kinds s) :
    ∃ fs, numbered.foldlM (attach o) {} = .ok fs := by
  induction numbered using List.reverseRecOn with
  | nil => exact ⟨{}, rfl⟩
  | append_singleton numbered last ih =>
    obtain ⟨n, s⟩ := last
    rw [List.map_append, List.map_singleton] at h
    obtain ⟨fs, hfs⟩ := ih fun s' hs' => h s' (List.mem_append_left _ hs')
    have hs : AdmissibleIn o.kinds s := h s (List.mem_append_right _ (List.mem_singleton_self s))
    have hattach := (attach_eq_ok (holds_of_attached hfs).2 n s).2 ⟨hs, rfl⟩
    exact ⟨_, attached_concat.2 ⟨fs, hfs, hattach⟩⟩

/-- A document is read exactly if its lines can be lexed, no name is declared with two kinds, and
every sample can be taken by its family; then the families hold the samples. -/
theorem parse_eq_ok {document : String} :
    parse document = .ok fs ↔
      ∃ ls, (Text.lines document.toList).map lexLine = ls.map .ok ∧ Agreeing ls ∧
        (∀ s ∈ samplesOf ls, AdmissibleIn (kindsOf ls) s) ∧
        Holds (kindsOf ls) (helpsOf ls) fs (samplesOf ls) := by
  constructor
  · intro h
    obtain ⟨o, ho, hfs⟩ := bind_eq_ok.1 h
    obtain ⟨ls, hls, houtline⟩ := outlines_empty.read ho
    rw [List.nil_append] at houtline
    have hholds := holds_of_attached hfs
    rw [houtline.kinds, houtline.helps, houtline.samples] at hholds
    exact ⟨ls, hls, houtline.agreeing, hholds⟩
  · rintro ⟨ls, hls, hagree, hadmissible, hholds⟩
    obtain ⟨o, ho⟩ := outlines_empty.exists_read 1 hls hagree
    have houtline : Outlines o ls := by
      obtain ⟨ls', hls', houtline⟩ := outlines_empty.read ho
      have heq : ls' = ls :=
        List.map_injective_iff.2 (fun _ _ => Except.ok.inj) (hls'.symm.trans hls)
      rwa [heq] at houtline
    rw [← houtline.kinds, ← houtline.samples] at hadmissible
    obtain ⟨fs', hfs'⟩ := exists_attached hadmissible
    have hholds' := (holds_of_attached hfs').2
    rw [houtline.kinds, houtline.helps, houtline.samples] at hholds'
    rw [hholds.unique hholds']
    exact bind_eq_ok.2 ⟨o, ho, hfs'⟩

end Document

end Testbed.Metrics
