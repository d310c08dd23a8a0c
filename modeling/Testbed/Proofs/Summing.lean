import Testbed.Metrics.Source
import Testbed.Proofs.Grouping
import Testbed.Proofs.Faithful
import Testbed.StandIn.Backend
import Testbed.StandIn.Network

/-!
Sums of metrics, told by the lines of the document they are read from. A sum is that of the lines
which belong to the family and whose labels are selected; no other line has any part in it.
-/
namespace Testbed.Metrics

def linesIn (document : String) : List Line :=
  (Text.lines document.toList).filterMap fun text => (lexLine text).toOption

def Selection.meets (s : Selection) (labels : Labels) : Bool :=
  s.matchers.all fun m => m.accepts ((labels.get? m.label).getD "")

def Part.ownLabels (kind : Kind) (p : Part) : Labels :=
  if kind.isAggregate then p.seriesLabels kind else p.labels

def selectedLines (kinds : Table Kind) (s : Selection) (name : String) (ss : List Sample) :
    List Part :=
  (partsOf kinds name ss).filter fun p => s.meets (p.ownLabels (kindOf kinds name))

def Extraction.role : Extraction → Role
  | .value => .sum
  | .count => .count

/-- Of an aggregate, each label set adds the value of its last line that carries the sum, or the
count; else each line adds its value, and counts no observations. -/
def addends (x : Extraction) (kind : Kind) (ps : List Part) : List Float :=
  if kind.isAggregate then
    (ps.map (Part.seriesLabels kind)).eraseDups.map fun labels =>
      lastOf x.role (linesOf kind ps labels)
  else ps.map fun p => if x = .value then p.sample.value else 0.0

def sumOfLines (x : Extraction) (kind : Kind) (ps : List Part) : Option Float :=
  if ps.isEmpty then none else some ((addends x kind ps).foldl (· + ·) (-0.0))

def Selection.settle (s : Selection) (name runnable : String) : Option Float → Except Failure Float
  | some x => .ok x
  | none => if s.missing = .zero then .ok 0.0 else .error (.missingMetric name runnable)

variable {kinds : Table Kind} {helps : Table String} {ss : List Sample} {ls : List Line}
  {fs : Families} {document name : String} {kind : Kind} {ps : List Part} {s s' : Selection}

theorem linesIn_of_lexed (h : (Text.lines document.toList).map lexLine = ls.map .ok) :
    linesIn document = ls := by
  have hlines : linesIn document =
      ((Text.lines document.toList).map lexLine).filterMap Except.toOption := by
    rw [List.filterMap_map]
    rfl
  have hsome : Except.toOption ∘ (Except.ok : Line → Except LineError Line) = some := rfl
  rw [hlines, h, List.filterMap_map, hsome, List.filterMap_some]

theorem lexed_of_parse (h : parse document = .ok fs) :
    (Text.lines document.toList).map lexLine = (linesIn document).map .ok ∧
    Agreeing (linesIn document) ∧
    Holds (kindsOf (linesIn document)) (helpsOf (linesIn document)) fs
      (samplesOf (linesIn document)) := by
  obtain ⟨ls, hls, hagree, -, hholds⟩ := parse_eq_ok.mp h
  rw [linesIn_of_lexed hls]
  exact ⟨hls, hagree, hholds⟩

theorem meets_congr (h : ∀ x, x ∈ s'.matchers ↔ x ∈ s.matchers) : s'.meets = s.meets := by
  funext labels
  rw [Bool.eq_iff_iff]
  simp only [Selection.meets, List.all_eq_true, h]

theorem filter_eraseDups {α : Type} [DecidableEq α] (q : α → Bool) (as : List α) :
    as.eraseDups.filter q = (as.filter q).eraseDups := by
  induction as using List.reverseRecOn with
  | nil => rfl
  | append_singleton as a ih =>
    rw [eraseDups_concat, List.filter_append]
    cases hq : q a with
    | false =>
      have hnone : [a].filter q = [] := by simp [hq]
      rw [hnone, List.append_nil, ← ih]
      split
      · rfl
      · rw [List.filter_append, hnone, List.append_nil]
    | true =>
      have hone : [a].filter q = [a] := by simp [hq]
      have hmem : a ∈ as.filter q ↔ a ∈ as := by simp [List.mem_filter, hq]
      rw [hone, eraseDups_concat]
      simp only [hmem]
      split
      · exact ih
      · rw [List.filter_append, hone, ih]

theorem extract_gather (s : Selection) (kind : Kind) (ps : List Part) (labels : Labels) :
    s.extract (gather kind ps labels) = lastOf s.extraction.role (linesOf kind ps labels) := by
  have hvalue : (gatherValue kind (linesOf kind ps labels)).scalar =
        lastOf .sum (linesOf kind ps labels) ∧
      (gatherValue kind (linesOf kind ps labels)).observations =
        some (lastOf .count (linesOf kind ps labels)) := by
    unfold gatherValue
    split <;> exact ⟨rfl, rfl⟩
  cases hx : s.extraction with
  | value => simp only [Selection.extract, hx, gather, hvalue.1, Extraction.role]
  | count => simp only [Selection.extract, hx, gather, hvalue.2, Extraction.role, Option.getD_some]

theorem linesOf_filter {q : Labels → Bool} {labels : Labels} (h : q labels = true) :
    linesOf kind (ps.filter fun p => q (p.seriesLabels kind)) labels = linesOf kind ps labels := by
  rw [linesOf, linesOf, List.filter_filter]
  refine List.filter_congr fun p _ => ?_
  by_cases hl : p.seriesLabels kind = labels <;> simp [hl, h]

theorem extracted_seriesOf (s : Selection) (kind : Kind) (ps : List Part) :
    ((seriesOf kind ps).filter s.selects).map s.extract =
      addends s.extraction kind (ps.filter fun p => s.meets (p.ownLabels kind)) := by
  by_cases hk : kind.isAggregate
  · have hown : (fun p : Part => s.meets (p.ownLabels kind)) =
        fun p => s.meets (p.seriesLabels kind) := by
      funext p
      rw [Part.ownLabels, if_pos hk]
    have hkeys : (ps.filter fun p => s.meets (p.seriesLabels kind)).map (Part.seriesLabels kind) =
        (ps.map (Part.seriesLabels kind)).filter s.meets := by
      rw [List.filter_map]
      rfl
    have hselects : s.selects ∘ gather kind ps = s.meets := rfl
    rw [addends, seriesOf, if_pos hk, if_pos hk, hown, hkeys, ← filter_eraseDups, List.filter_map,
      hselects, List.map_map]
    refine List.map_congr_left fun labels hm => ?_
    rw [Function.comp_apply, extract_gather, linesOf_filter (List.mem_filter.mp hm).2]
  · have hown : (fun p : Part => s.meets (p.ownLabels kind)) = fun p => s.meets p.labels := by
      funext p
      rw [Part.ownLabels, if_neg hk]
    have hselects : s.selects ∘ Part.simple = fun p => s.meets p.labels := rfl
    rw [addends, seriesOf, if_neg hk, if_neg hk, hown, List.filter_map, hselects, List.map_map]
    refine List.map_congr_left fun p _ => ?_
    simp only [Function.comp_apply, Selection.extract, Part.simple]
    cases s.extraction <;> rfl

theorem addends_eq_nil (x : Extraction) : addends x kind ps = [] ↔ ps = [] := by
  rw [addends]
  split
  · rw [List.map_eq_nil_iff, List.eq_nil_iff_forall_not_mem]
    simp only [List.mem_eraseDups, ← List.eq_nil_iff_forall_not_mem, List.map_eq_nil_iff]
  · exact List.map_eq_nil_iff

theorem sum_eq_foldl (s : Selection) (f : Family) :
    s.sum f = if (f.series.filter s.selects).isEmpty then none
      else some (((f.series.filter s.selects).map s.extract).foldl (· + ·) (-0.0)) := by
  unfold Selection.sum
  split
  · next h => rw [h]; rfl
  · next h =>
    rw [if_neg (by rwa [List.isEmpty_iff])]
    rfl

theorem selected_seriesOf (s : Selection) (kind : Kind) (ps : List Part) :
    (seriesOf kind ps).filter s.selects = [] ↔
      (ps.filter fun p => s.meets (p.ownLabels kind)) = [] := by
  rw [← List.map_eq_nil_iff (f := s.extract), extracted_seriesOf, addends_eq_nil]

theorem sum_seriesOf (s : Selection) {f : Family} (hf : f.series = seriesOf f.kind ps) :
    s.sum f = sumOfLines s.extraction f.kind
      (ps.filter fun p => s.meets (p.ownLabels f.kind)) := by
  rw [sum_eq_foldl, sumOfLines, hf, extracted_seriesOf]
  congr 1
  simp only [List.isEmpty_iff, selected_seriesOf]

theorem sum_of_holds (h : Holds kinds helps fs ss) (name : String) (s : Selection) :
    (fs.get? name).bind s.sum =
      sumOfLines s.extraction (kindOf kinds name) (selectedLines kinds s name ss) := by
  cases hf : fs.get? name with
  | some f =>
    rw [h.family name f hf]
    exact sum_seriesOf s rfl
  | none =>
    rw [selectedLines, h.partsOf_eq_nil hf]
    rfl

theorem selectedLines_eq_nil (h : Holds kinds helps fs ss) (name : String) (s : Selection) :
    selectedLines kinds s name ss = [] ↔
      ∀ f, fs.get? name = some f → ∀ m ∈ f.series, s.selects m = false := by
  cases hf : fs.get? name with
  | some f =>
    have hseries : f.series = seriesOf (kindOf kinds name) (partsOf kinds name ss) := by
      rw [h.family name f hf]
      rfl
    rw [selectedLines, ← selected_seriesOf, ← hseries, List.filter_eq_nil_iff]
    simp
  | none =>
    rw [selectedLines, h.partsOf_eq_nil hf]
    simp

theorem sumsIn_eq_mapM (runnable : String) (s : Selection) (fs : Families) (names : List String) :
    sumsIn runnable s fs names =
      names.mapM fun name => s.settle name runnable ((fs.get? name).bind s.sum) := by
  induction names with
  | nil => rfl
  | cons name names ih =>
    rw [List.mapM_cons, ← ih, sumsIn]
    cases (fs.get? name).bind s.sum with
    | some x => rfl
    | none => cases hm : s.missing <;> simp [Selection.settle, hm]

variable {σ κ : Type} {net : Network σ} {e : Environment σ κ} {m : Instrumented}

theorem scrape_after (net : Network σ) (m : Instrumented) (e : Environment σ κ) :
    ∃ world, (scrape net m e).2 = { e with world } := by
  unfold scrape
  split
  · exact ⟨e.world, rfl⟩
  · split
    · exact ⟨e.world, rfl⟩
    · dsimp only
      split
      · exact ⟨_, rfl⟩
      · split <;> exact ⟨_, rfl⟩

theorem families_of_scrape (hscrape : (scrape net m e).1 = .ok document)
    (hparse : parse document = .ok fs) : families net m e = (.ok fs, (scrape net m e).2) := by
  have hs : scrape net m e = (.ok document, (scrape net m e).2) := Prod.ext hscrape rfl
  rw [families, Act.bind_ok hs]
  simp only [bind, Act.asks, hparse]
  rfl

theorem sumsOf_of_scrape (hscrape : (scrape net m e).1 = .ok document)
    (hparse : parse document = .ok fs) (names : List String) (s : Selection) :
    sumsOf net m names s e =
      (sumsIn (e.nameOf m.runnable) s fs names, (scrape net m e).2) := by
  obtain ⟨world, hafter⟩ := scrape_after net m e
  rw [sumsOf, Act.bind_ok (families_of_scrape hscrape hparse), hafter]
  rfl

theorem sumsOf_eq_mapM (hscrape : (scrape net m e).1 = .ok document)
    (hparse : parse document = .ok fs) (s : Selection) (names : List String) :
    sumsOf net m names s e =
      (names.mapM fun name => s.settle name (e.nameOf m.runnable)
        (sumOfLines s.extraction (kindOf (kindsOf (linesIn document)) name)
          (selectedLines (kindsOf (linesIn document)) s name (samplesOf (linesIn document)))),
        (scrape net m e).2) := by
  obtain ⟨-, -, hholds⟩ := lexed_of_parse hparse
  rw [sumsOf_of_scrape hscrape hparse, sumsIn_eq_mapM]
  simp only [sum_of_holds hholds]

/-- The sums that are read from a document are those of the lines that are selected, and a sum is
missing exactly if no series is. Any other document with the same selected lines has the same sum,
and so has any other arrangement of the matchers. -/
theorem sumsOf_selected_lines (hscrape : (scrape net m e).1 = .ok document)
    (hparse : parse document = .ok fs) (s : Selection) :
    let kinds := kindsOf (linesIn document)
    let lines := fun name => selectedLines kinds s name (samplesOf (linesIn document))
    let sum := fun name => if (lines name).isEmpty then none
      else some ((addends s.extraction (kindOf kinds name) (lines name)).foldl (· + ·) (-0.0))
    (Text.lines document.toList).map lexLine = (linesIn document).map .ok ∧
    (∀ name kind, kinds.get? name = some kind ↔ .declaration name kind ∈ linesIn document) ∧
    (∀ names, sumsOf net m names s e =
      (names.mapM fun name => s.settle name (e.nameOf m.runnable) (sum name),
        (scrape net m e).2)) ∧
    (∀ name, (fs.get? name).bind s.sum = none ↔
      ∀ f, fs.get? name = some f → ∀ m ∈ f.series, s.selects m = false) ∧
    (∀ name document' fs', parse document' = .ok fs' →
      let kinds' := kindsOf (linesIn document')
      kindOf kinds' name = kindOf kinds name →
      selectedLines kinds' s name (samplesOf (linesIn document')) = lines name →
      (fs'.get? name).bind s.sum = (fs.get? name).bind s.sum) ∧
    ∀ s' : Selection, (∀ x, x ∈ s'.matchers ↔ x ∈ s.matchers) → s'.extraction = s.extraction →
      s'.missing = s.missing → ∀ names, sumsOf net m names s' e = sumsOf net m names s e := by
  intro kinds lines sum
  obtain ⟨hlexed, hagree, hholds⟩ := lexed_of_parse hparse
  have hsums := sumsOf_eq_mapM hscrape hparse
  refine ⟨hlexed, fun name kind => hagree.get?_kindsOf, hsums s, ?_, ?_, ?_⟩
  · intro name
    rw [sum_of_holds hholds, ← selectedLines_eq_nil hholds, sumOfLines]
    simp
  · intro name document' fs' hparse' kinds' hkind hlines
    rw [sum_of_holds hholds, sum_of_holds (lexed_of_parse hparse').2.2, hkind, hlines]
  · intro s' hmatchers hextraction hmissing names
    have hsettle : s'.settle = s.settle := by
      funext name runnable sum
      simp only [Selection.settle, hmissing]
    rw [hsums s', hsums s]
    simp only [hsettle, hextraction, selectedLines, meets_congr hmatchers]

def servedText : String :=
  "# TYPE h histogram\nh_bucket\x7ble=\"1\",z=\"a\"\x7d 2\nup 1\nh_sum\x7bz=\"b\"\x7d 3\n" ++
    "h_sum\x7bz=\"a\"\x7d 5\nh_sum\x7bz=\"a\"\x7d 7\n"

def exposing : World StandIn.State :=
  ⟨.empty, .empty, { StandIn.State.empty with
    linked := true
    servers := [⟨8080, 200, [servedText], 0⟩]
    staging := StandIn.Staging.empty.pin "a" "http" 8080 }⟩

def exposer : Instrumented := ⟨0, ⟨"http", "/metrics", .http⟩⟩

def selecting (matchers : List Matcher) : Selection := ⟨matchers, .value, .fail, none⟩

theorem sumsOf_selected_lines_exposition : ∃ e : Environment StandIn.State String,
    e.Reachable StandIn.backend StandIn.network ∧
    let sums := fun names matchers =>
      (sumsOf StandIn.network exposer names (selecting matchers) e).1
    let z : Matcher := ⟨"z", .equal, "a", none⟩
    sums ["h"] [] = .ok [10.0] ∧
    sums ["h"] [z] = .ok [7.0] ∧
    sums ["h", "up"] [z] = .error (.missingMetric "up" "a") ∧
    ∀ names, sums names [z, z] = sums names [z] := by
  let z : Matcher := ⟨"z", .equal, "a", none⟩
  let kinds := kindsOf (linesIn servedText)
  let samples := samplesOf (linesIn servedText)
  let lines := fun ms name => selectedLines kinds (selecting ms) name samples
  let sum := fun ms name => sumOfLines .value (kindOf kinds name) (lines ms name)
  obtain ⟨e, hr, hp⟩ := Environment.exists_reachable StandIn.backend StandIn.network (.ofName "bed")
    "/tmp" "Ab3dE9" exposing
    [.initialise ⟨"a", .ofList [("http", 80)]⟩ (.ofImage "image"), .start 0]
    (fun e => (scrape StandIn.network exposer e).1.toOption.any (· = servedText) ∧
      e.nameOf 0 = "a") (by decide +kernel)
  obtain ⟨hs, hname⟩ := of_decide_eq_true hp
  obtain ⟨text, hscrape, htext⟩ := Environment.exists_of_toOption hs
  rw [of_decide_eq_true htext] at hscrape
  obtain ⟨fs, hparse, -⟩ := Environment.exists_of_toOption (p := fun _ => true)
    (x := parse servedText) (by decide +kernel)
  have hresult : ∀ ms names, (sumsOf StandIn.network exposer names (selecting ms) e).1 =
      names.mapM fun name => (selecting ms).settle name "a" (sum ms name) := by
    intro ms names
    obtain ⟨-, -, hsums, -⟩ := sumsOf_selected_lines hscrape hparse (selecting ms)
    rw [hsums, ← hname]
    rfl
  obtain ⟨-, -, -, -, -, hmatchers⟩ := sumsOf_selected_lines hscrape hparse (selecting [z])
  have hboth : sum [] "h" = some 10.0 := by decide +kernel
  have hone : sum [z] "h" = some 7.0 := by decide +kernel
  have hnone : sum [z] "up" = none := by decide +kernel
  refine ⟨e, hr, ?_, ?_, ?_, fun names => ?_⟩
  · dsimp only
    rw [hresult, List.mapM_cons, hboth]
    rfl
  · dsimp only
    rw [hresult, List.mapM_cons, hone]
    rfl
  · dsimp only
    rw [hresult, List.mapM_cons, List.mapM_cons, hone, hnone]
    rfl
  · have hsame := hmatchers (selecting [z, z]) (fun x => by simp [selecting]) rfl rfl names
    exact congrArg Prod.fst hsame

end Testbed.Metrics
