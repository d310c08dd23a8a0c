import Testbed.Proofs.Placing

/-!
Reading a document that says what families there are gives these families.
-/
namespace Testbed.Metrics

def WrittenFamily.lines (w : WrittenFamily) : List Line :=
  (w.family.help.map (Line.help w.name)).toList ++
    .declaration w.name w.family.kind :: w.samples.map fun v => .sample v.sample

variable {fs : Families} {ws : List WrittenFamily} {w : WrittenFamily} {name : String}

theorem WrittenFamily.exists_mem_samples (w : WrittenFamily) (h : w.family.series ≠ []) :
    ∃ v, v ∈ w.samples := by
  rw [← w.all] at h
  obtain ⟨g, hg⟩ := List.exists_mem_of_ne_nil _ (fun hnil => h (List.map_eq_nil_iff.2 hnil))
  obtain ⟨v, hv⟩ := List.exists_mem_of_ne_nil _ (w.writes g hg).ne_nil
  exact ⟨v, List.mem_flatMap.2 ⟨g, hg, hv⟩⟩

structure WrittenFamily.Legible (w : WrittenFamily) : Prop where
  wellFormed : w.family.WellFormed w.name
  samples : ∀ v ∈ w.samples, v.sample.WellFormed

theorem WrittenFamily.Legible.stands (h : w.Legible) : ∀ line ∈ w.text, Stands line := by
  intro line hline
  rw [WrittenFamily.text, List.mem_append, List.mem_cons, List.mem_map] at hline
  rcases hline with hline | rfl | ⟨v, hv, rfl⟩
  · obtain ⟨text, htext, rfl⟩ := Option.map_eq_some_iff.1 (Option.mem_toList.1 hline)
    exact helpText_stands h.wellFormed.name (h.wellFormed.help text htext)
  · exact declarationText_stands _ h.wellFormed.name
  · exact Written.text_stands (h.samples v hv)

theorem WrittenFamily.Legible.lexLine (h : w.Legible) :
    w.text.map lexLine = w.lines.map .ok := by
  have hhelp : (w.family.help.map (helpText w.name)).toList.map Metrics.lexLine =
      (w.family.help.map (Line.help w.name)).toList.map .ok := by
    cases ht : w.family.help with
    | none => rfl
    | some text =>
      have hlex := lexLine_helpText h.wellFormed.name (h.wellFormed.help text ht)
      simp [hlex]
  have hdeclaration := lexLine_declarationText w.family.kind h.wellFormed.name
  have hsamples : w.samples.map (fun v => Metrics.lexLine v.text) =
      w.samples.map fun v => .ok (.sample v.sample) :=
    List.map_congr_left fun v hv => lexLine_text (h.samples v hv)
  rw [text, lines, List.map_append, List.map_append, List.map_cons, List.map_cons, hhelp,
    hdeclaration, List.map_map, List.map_map]
  exact congrArg (fun l => _ ++ Except.ok _ :: l) hsamples

theorem lines_of_text {document : String} (h : ∀ w ∈ ws, w.Legible)
    (hd : document.toList = (ws.flatMap WrittenFamily.text).flatMap (· ++ ['\n'])) :
    (Text.lines document.toList).map lexLine = (ws.flatMap WrittenFamily.lines).map .ok := by
  have hstands : ∀ line ∈ ws.flatMap WrittenFamily.text, Stands line := by
    intro line hline
    obtain ⟨w, hw, hline⟩ := List.mem_flatMap.1 hline
    exact (h w hw).stands line hline
  rw [hd, Text.lines_flatMap (fun l hl => (hstands l hl).whole) fun l hl => (hstands l hl).ends,
    List.map_flatMap, List.map_flatMap]
  exact List.flatMap_congr fun w hw => (h w hw).lexLine

theorem mem_lines {l : Line} : l ∈ w.lines ↔
    (∃ text, w.family.help = some text ∧ l = .help w.name text) ∨
      l = .declaration w.name w.family.kind ∨ ∃ v ∈ w.samples, l = .sample v.sample := by
  simp [WrittenFamily.lines, eq_comm]

theorem samplesOf_lines (ws : List WrittenFamily) :
    samplesOf (ws.flatMap WrittenFamily.lines) =
      ws.flatMap fun w => w.samples.map (·.sample) := by
  rw [samplesOf, List.filterMap_flatMap]
  refine List.flatMap_congr fun w _ => ?_
  have hsamples : (w.samples.map fun v => Line.sample v.sample).filterMap Line.sample? =
      w.samples.map (·.sample) := by
    rw [List.filterMap_map]
    exact congrFun List.filterMap_eq_map' w.samples
  have hhelp : (w.family.help.map (Line.help w.name)).toList.filterMap Line.sample? = [] := by
    cases w.family.help <;> rfl
  rw [WrittenFamily.lines, List.filterMap_append, hhelp, List.nil_append,
    List.filterMap_cons_none rfl, hsamples]

section Document

variable (hp : (ws.map fun w => (w.name, w.family)).Perm fs.entries)
include hp

theorem get?_of_mem (hw : w ∈ ws) : fs.get? w.name = some w.family :=
  Table.mem_entries_iff.1 (hp.mem_iff.1 (List.mem_map.2 ⟨w, hw, rfl⟩))

theorem exists_mem_of_get? {f : Family} (hf : fs.get? name = some f) :
    ∃ w ∈ ws, w.name = name ∧ w.family = f := by
  obtain ⟨w, hw, heq⟩ := List.mem_map.1 (hp.mem_iff.2 (Table.mem_entries_iff.2 hf))
  cases heq
  exact ⟨w, hw, rfl, rfl⟩

theorem nodup_names : (ws.map (·.name)).Nodup := by
  have hperm := hp.map (·.1)
  rw [List.map_map] at hperm
  exact hperm.nodup_iff.2 fs.nodup_keys

theorem mem_declaration_iff {kind : Kind} :
    .declaration name kind ∈ ws.flatMap WrittenFamily.lines ↔
      ∃ f, fs.get? name = some f ∧ f.kind = kind := by
  constructor
  · intro h
    obtain ⟨w, hw, hl⟩ := List.mem_flatMap.1 h
    obtain ⟨rfl, rfl⟩ : name = w.name ∧ kind = w.family.kind := by simpa using mem_lines.1 hl
    exact ⟨w.family, get?_of_mem hp hw, rfl⟩
  · rintro ⟨f, hf, rfl⟩
    obtain ⟨w, hw, rfl, rfl⟩ := exists_mem_of_get? hp hf
    exact List.mem_flatMap.2 ⟨w, hw, mem_lines.2 (.inr (.inl rfl))⟩

theorem agreeing_lines : Agreeing (ws.flatMap WrittenFamily.lines) := by
  rintro ⟨name, kind⟩ hfirst ⟨name', kind'⟩ hsecond heq
  obtain ⟨f, hf, rfl⟩ := (mem_declaration_iff hp).1 (mem_declarationsOf.1 hfirst)
  obtain ⟨f', hf', rfl⟩ := (mem_declaration_iff hp).1 (mem_declarationsOf.1 hsecond)
  cases heq
  rw [hf] at hf'
  cases hf'
  rfl

theorem get?_kindsOf_lines (name : String) :
    (kindsOf (ws.flatMap WrittenFamily.lines)).get? name = (fs.get? name).map (·.kind) := by
  refine Option.ext fun kind => ?_
  rw [(agreeing_lines hp).get?_kindsOf, mem_declaration_iff hp, Option.map_eq_some_iff]

theorem get?_helpsOf_lines (name : String) :
    (helpsOf (ws.flatMap WrittenFamily.lines)).get? name = (fs.get? name).bind (·.help) := by
  have hmem : ∀ name text,
      (name, text) ∈ (ws.flatMap WrittenFamily.lines).filterMap Line.help? ↔
        ∃ f, fs.get? name = some f ∧ f.help = some text := by
    intro name text
    constructor
    · intro h
      obtain ⟨l, hl, heq⟩ := List.mem_filterMap.1 h
      obtain ⟨w, hw, hl⟩ := List.mem_flatMap.1 hl
      rcases mem_lines.1 hl with ⟨t, ht, rfl⟩ | rfl | ⟨v, -, rfl⟩ <;> cases heq
      exact ⟨w.family, get?_of_mem hp hw, ht⟩
    · rintro ⟨f, hf, ht⟩
      obtain ⟨w, hw, rfl, rfl⟩ := exists_mem_of_get? hp hf
      exact List.mem_filterMap.2 ⟨.help w.name text,
        List.mem_flatMap.2 ⟨w, hw, mem_lines.2 (.inl ⟨text, ht, rfl⟩)⟩, rfl⟩
  refine Option.ext fun text => ?_
  rw [helpsOf, Table.get?_ofList, hmem, Option.bind_eq_some_iff]
  rintro ⟨name, text⟩ hfirst ⟨name', text'⟩ hsecond heq
  obtain ⟨f, hf, ht⟩ := (hmem name text).1 hfirst
  obtain ⟨f', hf', ht'⟩ := (hmem name' text').1 hsecond
  cases heq
  rw [hf] at hf'
  cases hf'
  exact Option.some.inj (ht.symm.trans ht')

theorem not_declaredAs (hw : w ∈ ws) {base suffix_ : String} (hname : w.name = base ++ suffix_)
    {p : Kind → Bool}
    (hnone : ∀ f, fs.get? base = some f → p f.kind → fs.get? (base ++ suffix_) = none) :
    declaredAs (kindsOf (ws.flatMap WrittenFamily.lines)) p base = false := by
  rw [declaredAs, get?_kindsOf_lines hp]
  cases hf : fs.get? base with
  | none => rfl
  | some f =>
    refine Bool.eq_false_iff.2 fun hk => ?_
    have hfound := get?_of_mem hp hw
    rw [hname, hnone f hf hk] at hfound
    cases hfound

variable (h : fs.WellFormed)
include h

theorem settled_of_mem (hw : w ∈ ws) :
    Settled (kindsOf (ws.flatMap WrittenFamily.lines)) w.name w.family.kind := by
  refine ⟨?_, ?_, ?_, ?_⟩
  · rw [get?_kindsOf_lines hp, get?_of_mem hp hw]
    rfl
  · exact fun base hbase => not_declaredAs hp hw hbase fun f hf hk =>
      h.bucket base f hf (of_decide_eq_true hk)
  · exact fun base hbase => not_declaredAs hp hw hbase fun f hf hk => (h.total base f hf hk).1
  · exact fun base hbase => not_declaredAs hp hw hbase fun f hf hk => (h.total base f hf hk).2

theorem placed_of_mem (hw : w ∈ ws) {v : Written} (hv : v ∈ w.samples) :
    ∃ labels role x timestamp, Placed (kindsOf (ws.flatMap WrittenFamily.lines)) w.name
      w.family.kind labels role x timestamp v := by
  have hwell := h.family w.name w.family (get?_of_mem hp hw)
  obtain ⟨g, hg, hv⟩ := List.mem_flatMap.1 hv
  have hm := w.mem_series hg
  obtain ⟨role, x, hplaced⟩ := (w.writes g hg).placed
    (hwell.writable (settled_of_mem hp h hw) hm) (hwell.series g.1 hm).value v hv
  exact ⟨_, role, x, _, hplaced⟩

theorem legible_of_mem (hw : w ∈ ws) : w.Legible := by
  refine ⟨h.family w.name w.family (get?_of_mem hp hw), fun v hv => ?_⟩
  obtain ⟨_, _, _, _, hplaced⟩ := placed_of_mem hp h hw hv
  exact hplaced.written

theorem partsOf_lines (hw : w ∈ ws) :
    let kinds := kindsOf (ws.flatMap WrittenFamily.lines)
    partsOf kinds w.name (samplesOf (ws.flatMap WrittenFamily.lines)) =
      partsFrom kinds w.samples := by
  intro kinds
  have hown : ∀ w ∈ ws, ∀ s ∈ w.samples.map (·.sample), familyName kinds s = w.name := by
    intro w hw s hs
    obtain ⟨v, hv, rfl⟩ := List.mem_map.1 hs
    obtain ⟨_, _, _, _, hplaced⟩ := placed_of_mem hp h hw hv
    exact hplaced.family
  rw [partsOf, samplesOf_lines, filter_groups (nodup_names hp) hown hw, List.map_map]
  rfl

theorem admissible_of_mem {s : Sample}
    (hs : s ∈ samplesOf (ws.flatMap WrittenFamily.lines)) :
    AdmissibleIn (kindsOf (ws.flatMap WrittenFamily.lines)) s := by
  rw [samplesOf_lines] at hs
  obtain ⟨w, hw, hs⟩ := List.mem_flatMap.1 hs
  obtain ⟨v, hv, rfl⟩ := List.mem_map.1 hs
  obtain ⟨_, _, _, _, hplaced⟩ := placed_of_mem hp h hw hv
  rw [AdmissibleIn, hplaced.family, kindOf, (settled_of_mem hp h hw).declared]
  exact hplaced.admissible

theorem holds_lines :
    Holds (kindsOf (ws.flatMap WrittenFamily.lines)) (helpsOf (ws.flatMap WrittenFamily.lines)) fs
      (samplesOf (ws.flatMap WrittenFamily.lines)) := by
  constructor
  · intro name
    rw [samplesOf_lines]
    constructor
    · intro hsome
      obtain ⟨f, hf⟩ := Option.isSome_iff_exists.1 hsome
      obtain ⟨w, hw, rfl, rfl⟩ := exists_mem_of_get? hp hf
      obtain ⟨v, hv⟩ := w.exists_mem_samples (h.family w.name w.family hf).nonempty
      obtain ⟨_, _, _, _, hplaced⟩ := placed_of_mem hp h hw hv
      exact ⟨v.sample, List.mem_flatMap.2 ⟨w, hw, List.mem_map_of_mem hv⟩, hplaced.family⟩
    · rintro ⟨s, hs, rfl⟩
      obtain ⟨w, hw, hs⟩ := List.mem_flatMap.1 hs
      obtain ⟨v, hv, rfl⟩ := List.mem_map.1 hs
      obtain ⟨_, _, _, _, hplaced⟩ := placed_of_mem hp h hw hv
      rw [hplaced.family, get?_of_mem hp hw]
      rfl
  · intro name f hf
    obtain ⟨w, hw, rfl, rfl⟩ := exists_mem_of_get? hp hf
    have hsettled := settled_of_mem hp h hw
    have hseries := WrittenFamily.seriesOf_samples (h.family w.name w.family hf) hsettled
    rw [familyOf, get?_helpsOf_lines hp, hf, kindOf, hsettled.declared, partsOf_lines hp h hw,
      Option.getD_some, hseries]
    rfl

end Document

/-- Families that are written as a document, with any number tokens that read back as their
values, are read from it again. -/
theorem parse_of_renders {document : String} (h : fs.WellFormed) (hr : Renders fs document) :
    parse document = .ok fs := by
  obtain ⟨ws, hp, htext⟩ := hr
  have hlines := lines_of_text (fun w hw => legible_of_mem hp h hw) htext
  exact parse_eq_ok.2 ⟨ws.flatMap WrittenFamily.lines, hlines, agreeing_lines hp,
    fun s hs => admissible_of_mem hp h hs, holds_lines hp h⟩

def oneToken : List Char := "1.0".toList
def twoToken : List Char := "2".toList
def one : Float := Decimal.nearest 10 (-1)
def two : Float := Decimal.nearest 2 0

def zone : Labels := ⟨[("zone", "a\"\n")], List.pairwise_singleton _ _⟩

def latencySeries : Series := ⟨zone, .histogram one two [⟨one, two⟩], some (-5)⟩
def upSeries : Series := ⟨{}, .simple one, none⟩

def latency : Family := ⟨some "in \\s", .histogram, [latencySeries]⟩
def up : Family := ⟨none, .untyped, [upSeries]⟩

def exposed : Families := ⟨[("latency", latency), ("up", up)], by decide⟩

def exposition : String :=
  "# TYPE up untyped\nup 1.0\n# HELP latency in \\\\s\n# TYPE latency histogram\n" ++
    "latency_bucket\x7bzone=\"a\\\"\\n\",le=\"1.0\"\x7d 2 -5\n" ++
    "latency_sum\x7bzone=\"a\\\"\\n\"\x7d 1.0 -5\nlatency_count\x7bzone=\"a\\\"\\n\"\x7d 2 -5\n"

def bucketLine : Written :=
  ⟨⟨"latency_bucket", [("zone", "a\"\n"), ("le", "1.0")], two, some (-5)⟩, twoToken, rfl⟩
def sumLine : Written := ⟨⟨"latency_sum", [("zone", "a\"\n")], one, some (-5)⟩, oneToken, rfl⟩
def countLine : Written := ⟨⟨"latency_count", [("zone", "a\"\n")], two, some (-5)⟩, twoToken, rfl⟩
def upLine : Written := ⟨⟨"up", [], one, none⟩, oneToken, rfl⟩

theorem writes_latency : Writes "latency" latencySeries [bucketLine, sumLine, countLine] := by
  have hbucket : bucketLine.SaysBounded ("latency" ++ "_bucket") "le" one zone.entries two
      (some (-5)) :=
    ⟨"1.0", rfl, rfl, .swap .., rfl, rfl⟩
  exact @Writes.histogram _ zone one two (some (-5)) [(⟨one, two⟩, bucketLine)] sumLine countLine
    (by simpa using hbucket) ⟨rfl, .refl _, rfl, rfl⟩ ⟨rfl, .refl _, rfl, rfl⟩

theorem writes_up : Writes "up" upSeries [upLine] := .simple ⟨rfl, .refl _, rfl, rfl⟩

theorem exposed_cases {name : String} {f : Family} (h : exposed.get? name = some f) :
    (name = "latency" ∧ f = latency) ∨ name = "up" ∧ f = up := by
  simpa [exposed] using Table.mem_entries_iff.2 h

theorem latencySeries_wellFormed : latencySeries.WellFormed .histogram := by
  refine ⟨?_, rfl, ?_, fun _ => rfl⟩
  · simp only [latencySeries, zone, List.mem_singleton, forall_eq]
    exact ⟨'z', "one".toList, rfl, rfl, by decide⟩
  · simp only [latencySeries, Option.mem_some_iff, forall_eq']
    decide

theorem exposed_wellFormed : exposed.WellFormed := by
  refine ⟨fun name f hf => ?_, fun base f hf hk => ?_, fun base f hf hk => ?_⟩
  · rcases exposed_cases hf with ⟨rfl, rfl⟩ | ⟨rfl, rfl⟩
    · refine ⟨⟨'l', "atency".toList, rfl, rfl, by decide⟩, ?_, by simp [latency], ?_,
        by simp [latency]⟩
      · simp only [latency, Option.mem_some_iff, forall_eq']
        refine ⟨fun c hc => ?_, fun c hc => ?_⟩ <;> cases hc <;> rfl
      · simpa [latency] using latencySeries_wellFormed
    · refine ⟨⟨'u', ['p'], rfl, rfl, by decide⟩, by simp [up], by simp [up], ?_, by simp [up]⟩
      simp only [up, List.mem_singleton, forall_eq]
      exact ⟨fun e he => (nomatch he), rfl, by simp [upSeries], fun hk => nomatch hk⟩
  · rcases exposed_cases hf with ⟨rfl, rfl⟩ | ⟨rfl, rfl⟩
    · rfl
    · cases hk
  · rcases exposed_cases hf with ⟨rfl, rfl⟩ | ⟨rfl, rfl⟩
    · exact ⟨rfl, rfl⟩
    · cases hk

theorem renders_exposed : Renders exposed exposition :=
  ⟨[⟨"up", up, [(upSeries, [upLine])], rfl, by simpa using writes_up⟩,
    ⟨"latency", latency, [(latencySeries, [bucketLine, sumLine, countLine])], rfl,
      by simpa using writes_latency⟩], .swap .., by decide +kernel⟩

theorem parse_of_renders_exposed :
    exposed.WellFormed ∧ Renders exposed exposition ∧ parse exposition = .ok exposed :=
  ⟨exposed_wellFormed, renders_exposed, parse_of_renders exposed_wellFormed renders_exposed⟩

end Testbed.Metrics
