import Testbed.Proofs.Polling
import Testbed.Proofs.Summing

/-!
Whether a metric is there, by its sum and by a search for its series. On one runnable the two
agree. A composite has the metric once a member has it, but sums it only if every member does.
-/
namespace Testbed.Metrics

variable {σ κ : Type}

def Selection.finds (s : Selection) (name : String) (fs : Families) : Bool :=
  (fs.get? name).any fun f => f.series.any s.selects

inductive Scraped (net : Network σ) (ms : List Instrumented) (e : Environment σ κ) :
    Environment σ κ → Prop
  | start : Scraped net ms e e
  | next {e' : Environment σ κ} {m : Instrumented} (before : Scraped net ms e e') (hm : m ∈ ms) :
      Scraped net ms e ((scrape net m).after e')

/-- Each runnable serves a document that parses, and the same one whatever was scraped before. -/
structure Serving (net : Network σ) (ms : List Instrumented) (documents : Instrumented → String)
    (fs : Instrumented → Families) (e : Environment σ κ) : Prop where
  served : ∀ e', Scraped net ms e e' → ∀ m ∈ ms, (scrape net m e').1 = .ok (documents m)
  parsed : ∀ m ∈ ms, parse (documents m) = .ok (fs m)

/-- The search for a metric and its sum tell the same, and a wait for its removal ends with the
first search exactly if the sum reports it missing. -/
structure Source.Agrees (net : Network σ) (source : Source) (name : String) (s : Selection)
    (e : Environment σ κ) : Prop where
  present : (source.exports net name s e).1 = .ok true ↔
    ∃ sums, (source.sums net [name] s e).1 = .ok sums
  absent : (source.exports net name s e).1 = .ok false ↔
    ∃ runnable, (source.sums net [name] s e).1 = .error (.missingMetric name runnable)
  removed : waitRemoved (source.name e) (source.exports net name s) name s e =
      (.ok (), (source.exports net name s).after e) ↔
    ∃ runnable, (source.sums net [name] s e).1 = .error (.missingMetric name runnable)

variable {net : Network σ} {ms all : List Instrumented} {documents : Instrumented → String}
  {fs : Instrumented → Families} {e₀ e : Environment σ κ} {m : Instrumented} {name : String}
  {s : Selection} {source : Source}

theorem isSome_sum (s : Selection) (f : Family) : (s.sum f).isSome = f.series.any s.selects := by
  rw [sum_eq_foldl, Bool.eq_iff_iff, List.any_eq_true]
  cases hsel : f.series.filter s.selects with
  | nil => simpa [List.filter_eq_nil_iff] using hsel
  | cons m r =>
    have hm : m ∈ f.series.filter s.selects := by simp [hsel]
    simpa using ⟨m, List.mem_filter.mp hm⟩

theorem finds_eq_isSome (s : Selection) (name : String) (fs : Families) :
    s.finds name fs = ((fs.get? name).bind s.sum).isSome := by
  cases hf : fs.get? name with
  | none => simp [Selection.finds, hf]
  | some f => simp [Selection.finds, hf, isSome_sum]

theorem sumsIn_of_finds (runnable : String) {fs : Families} (h : s.finds name fs = true) :
    ∃ x, sumsIn runnable s fs [name] = .ok [x] := by
  rw [finds_eq_isSome, Option.isSome_iff_exists] at h
  obtain ⟨x, hx⟩ := h
  exact ⟨x, by rw [sumsIn, hx]; rfl⟩

theorem sumsIn_of_lacks (hs : s.missing = .fail) (runnable : String) {fs : Families}
    (h : s.finds name fs = false) :
    sumsIn runnable s fs [name] = .error (.missingMetric name runnable) := by
  rw [finds_eq_isSome, Option.isSome_eq_false_iff, Option.isNone_iff_eq_none] at h
  rw [sumsIn, h, hs]
  rfl

theorem exportsOf_of_scrape {text : String} {fs : Families}
    (hscrape : (scrape net m e).1 = .ok text) (hparse : parse text = .ok fs) :
    exportsOf net m name s e = (.ok (s.finds name fs), (scrape net m e).2) := by
  rw [exportsOf, Act.bind_ok (families_of_scrape hscrape hparse)]
  unfold Selection.finds
  cases fs.get? name <;> rfl

theorem Scraped.world (h : Scraped net all e₀ e) : ∃ world, e = { e₀ with world } := by
  induction h with
  | start => exact ⟨e₀.world, rfl⟩
  | @next e' m before hm ih =>
    obtain ⟨world, rfl⟩ := ih
    exact scrape_after net m { e₀ with world }

theorem Scraped.nameOf (h : Scraped net all e₀ e) (i : Nat) : e.nameOf i = e₀.nameOf i := by
  obtain ⟨world, rfl⟩ := h.world
  rfl

namespace Serving

variable (hserving : Serving net all documents fs e₀) (he : Scraped net all e₀ e) (hm : m ∈ all)
include hserving he hm

theorem exportsOf (name : String) (s : Selection) :
    exportsOf net m name s e = (.ok (s.finds name (fs m)), (scrape net m).after e) :=
  exportsOf_of_scrape (hserving.served e he m hm) (hserving.parsed m hm)

theorem sumsOf_of_finds (hf : s.finds name (fs m) = true) :
    ∃ x, sumsOf net m [name] s e = (.ok [x], (scrape net m).after e) := by
  obtain ⟨x, hx⟩ := sumsIn_of_finds (e.nameOf m.runnable) hf
  refine ⟨x, ?_⟩
  rw [sumsOf_of_scrape (hserving.served e he m hm) (hserving.parsed m hm), hx]
  rfl

theorem sumsOf_of_lacks (hs : s.missing = .fail) (hf : s.finds name (fs m) = false) :
    sumsOf net m [name] s e =
      (.error (.missingMetric name (e₀.nameOf m.runnable)), (scrape net m).after e) := by
  rw [sumsOf_of_scrape (hserving.served e he m hm) (hserving.parsed m hm),
    sumsIn_of_lacks hs _ hf, he.nameOf]
  rfl

end Serving

section Members

variable (hserving : Serving net all documents fs e₀)
include hserving

theorem anyExports_of_serving (name : String) (s : Selection) (hms : ∀ m ∈ ms, m ∈ all)
    (he : Scraped net all e₀ e) : ∃ e', Scraped net all e₀ e' ∧
      anyExports net name s ms e = (.ok (ms.any fun m => s.finds name (fs m)), e') := by
  induction ms generalizing e with
  | nil => exact ⟨e, he, rfl⟩
  | cons m ms ih =>
    obtain ⟨hm, hms⟩ := List.forall_mem_cons.mp hms
    have hnext := he.next hm
    rw [anyExports, Act.bind_ok (hserving.exportsOf he hm name s), List.any_cons]
    cases s.finds name (fs m) with
    | true => exact ⟨_, hnext, rfl⟩
    | false => exact ih hms hnext

theorem addSums_of_finds (hms : ∀ m ∈ ms, m ∈ all) (he : Scraped net all e₀ e)
    (hf : ∀ m ∈ ms, s.finds name (fs m) = true) (sums : List Float) :
    ∃ sums', (addSums net [name] s sums ms e).1 = .ok sums' := by
  induction ms generalizing e sums with
  | nil => exact ⟨sums, rfl⟩
  | cons m ms ih =>
    obtain ⟨hm, hms⟩ := List.forall_mem_cons.mp hms
    obtain ⟨hfm, hf⟩ := List.forall_mem_cons.mp hf
    obtain ⟨x, hx⟩ := hserving.sumsOf_of_finds he hm hfm
    rw [addSums, Act.bind_ok hx]
    exact ih hms (he.next hm) hf _

theorem addSums_of_lacks (hs : s.missing = .fail) (hms : ∀ m ∈ ms, m ∈ all)
    (he : Scraped net all e₀ e) (hm : ms.find? (fun m => !s.finds name (fs m)) = some m)
    (sums : List Float) :
    (addSums net [name] s sums ms e).1 = .error (.missingMetric name (e₀.nameOf m.runnable)) := by
  induction ms generalizing e sums with
  | nil => cases hm
  | cons m' ms ih =>
    obtain ⟨hm', hms⟩ := List.forall_mem_cons.mp hms
    cases hf : s.finds name (fs m') with
    | true =>
      obtain ⟨x, hx⟩ := hserving.sumsOf_of_finds he hm' hf
      rw [addSums, Act.bind_ok hx]
      rw [List.find?_cons_of_neg (by simp [hf])] at hm
      exact ih hms (he.next hm') hm _
    | false =>
      rw [List.find?_cons_of_pos (by simp [hf])] at hm
      cases hm
      rw [addSums, Act.bind_error (hserving.sumsOf_of_lacks he hm' hs hf)]

end Members

section Sources

variable (name source) (hserving : Serving net source.members documents fs e₀)
include hserving

theorem exports_of_serving (s : Selection) (he : Scraped net source.members e₀ e) :
    ∃ e', Scraped net source.members e₀ e' ∧ source.exports net name s e =
      (.ok (source.members.any fun m => s.finds name (fs m)), e') :=
  anyExports_of_serving hserving name s (fun _ hm => hm) he

theorem sums_of_finds (hf : ∀ m ∈ source.members, s.finds name (fs m) = true) :
    ∃ sums, (source.sums net [name] s e₀).1 = .ok sums := by
  cases source with
  | single m =>
    have hm : m ∈ (Source.single m).members := List.mem_singleton.mpr rfl
    obtain ⟨x, hx⟩ := hserving.sumsOf_of_finds .start hm (hf m hm)
    exact ⟨[x], congrArg Prod.fst hx⟩
  | composite _ ms => exact addSums_of_finds hserving (fun _ hm => hm) .start hf _

theorem sums_of_lacks (hs : s.missing = .fail)
    (hm : source.members.find? (fun m => !s.finds name (fs m)) = some m) :
    (source.sums net [name] s e₀).1 =
      .error (.missingMetric name (e₀.nameOf m.runnable)) := by
  cases source with
  | single m' =>
    have hm' : m' ∈ (Source.single m').members := List.mem_singleton.mpr rfl
    obtain rfl : m' = m := List.mem_singleton.mp (List.mem_of_find?_eq_some hm) |>.symm
    have hf : s.finds name (fs m') = false := by simpa using List.find?_some hm
    exact congrArg Prod.fst (hserving.sumsOf_of_lacks .start hm' hs hf)
  | composite _ ms => exact addSums_of_lacks hserving hs (fun _ hm => hm) .start hm _

theorem waitRemoved_of_none (title : String)
    (hf : (source.members.any fun m => s.finds name (fs m)) = false) :
    waitRemoved title (source.exports net name s) name s e₀ =
      (.ok (), (source.exports net name s).after e₀) := by
  obtain ⟨e', -, hx⟩ := exports_of_serving name source hserving s .start
  rw [hf] at hx
  have hround : removalRound (source.exports net name s) () e₀ = (.inl (.ok ()), e') := by
    rw [removalRound, hx]
  rw [waitRemoved, paced, pacedFrom_of_inl hround, Act.after, hx]

theorem waitRemoved_of_any (title : String)
    (hf : (source.members.any fun m => s.finds name (fs m)) = true) :
    ∃ f, (waitRemoved title (source.exports net name s) name s e₀).1 = .error f := by
  have hround : ∀ (b : Unit) e, Scraped net source.members e₀ e → ∃ b' e',
      removalRound (source.exports net name s) b e = (.inr b', e') ∧
        Scraped net source.members e₀ e' := by
    intro b e he
    obtain ⟨e', he', hx⟩ := exports_of_serving name source hserving s he
    refine ⟨(), e', ?_, he'⟩
    rw [removalRound, hx, hf]
  rw [waitRemoved]
  rcases paced_of_unsettling hround s.waitPolicy () .start with ⟨b', e', hwait⟩ | ⟨e', hwait⟩ <;>
    rw [hwait] <;> exact ⟨_, rfl⟩

theorem sums_cases (hs : s.missing = .fail) :
    ((∃ sums, (source.sums net [name] s e₀).1 = .ok sums) ↔
      (source.members.all fun m => s.finds name (fs m)) = true) ∧
    ((∃ runnable, (source.sums net [name] s e₀).1 = .error (.missingMetric name runnable)) ↔
      (source.members.all fun m => s.finds name (fs m)) = false) := by
  cases hall : source.members.all fun m => s.finds name (fs m) with
  | true =>
    obtain ⟨sums, hsums⟩ := sums_of_finds name source hserving (List.all_eq_true.mp hall)
    simp [hsums]
  | false =>
    have hsome : (source.members.find? fun m => !s.finds name (fs m)).isSome = true := by
      rw [List.find?_isSome]
      simpa using hall
    obtain ⟨m, hm⟩ := Option.isSome_iff_exists.mp hsome
    simp [sums_of_lacks name source hserving hs hm]

theorem waitRemoved_iff (title : String) :
    waitRemoved title (source.exports net name s) name s e₀ =
        (.ok (), (source.exports net name s).after e₀) ↔
      (source.members.any fun m => s.finds name (fs m)) = false := by
  refine ⟨fun h => ?_, waitRemoved_of_none name source hserving title⟩
  by_contra hany
  obtain ⟨f, hstays⟩ := waitRemoved_of_any name source hserving title (eq_true_of_ne_false hany)
  rw [h] at hstays
  cases hstays

theorem agrees_iff_any_eq_all (hs : s.missing = .fail) :
    source.Agrees net name s e₀ ↔
      (source.members.any fun m => s.finds name (fs m)) =
        source.members.all fun m => s.finds name (fs m) := by
  obtain ⟨e', -, hx⟩ := exports_of_serving name source hserving s .start
  obtain ⟨hok, hmissing⟩ := sums_cases name source hserving hs
  have hremoved := waitRemoved_iff name source hserving (s := s) (source.name e₀)
  constructor
  · intro h
    have hpresent := h.present.trans hok
    rw [hx, Except.ok.injEq] at hpresent
    exact Bool.eq_iff_iff.mpr hpresent
  · intro h
    refine ⟨?_, ?_, ?_⟩
    · rw [hok, hx, Except.ok.injEq, h]
    · rw [hmissing, hx, Except.ok.injEq, h]
    · rw [hremoved, hmissing, h]

/-- A search finds a metric if any member has it, a sum needs all of them to have it. The two
agree exactly if all members have the metric or none has, so always on a single runnable. -/
theorem presence_agrees_iff (hsome : source.members ≠ []) (hs : s.missing = .fail) :
    let found := fun m => s.finds name (fs m)
    (source.exports net name s e₀).1 = .ok (source.members.any found) ∧
    ((∃ sums, (source.sums net [name] s e₀).1 = .ok sums) ↔ ∀ m ∈ source.members, found m) ∧
    (∀ m, source.members.find? (fun m => !found m) = some m →
      (source.sums net [name] s e₀).1 =
        .error (.missingMetric name (e₀.nameOf m.runnable))) ∧
    (source.Agrees net name s e₀ ↔
      (∀ m ∈ source.members, found m) ∨ ∀ m ∈ source.members, ¬found m) ∧
    (∀ m, source = .single m → source.Agrees net name s e₀) := by
  intro found
  obtain ⟨e', -, hx⟩ := exports_of_serving name source hserving s .start
  have hagrees := agrees_iff_any_eq_all name source hserving hs
  refine ⟨by rw [hx], ?_, fun m hm => sums_of_lacks name source hserving hs hm, ?_, ?_⟩
  · rw [(sums_cases name source hserving hs).1, List.all_eq_true]
  · obtain ⟨m₀, hm₀⟩ := List.exists_mem_of_ne_nil _ hsome
    rw [hagrees]
    constructor
    · intro h
      cases hany : source.members.any found with
      | true =>
        rw [hany] at h
        exact .inl (List.all_eq_true.mp h.symm)
      | false => exact .inr (List.any_eq_false.mp hany)
    · rintro (h | h)
      · rw [List.all_eq_true.mpr h, List.any_eq_true]
        exact ⟨m₀, hm₀, h m₀ hm₀⟩
      · rw [List.any_eq_false.mpr h, eq_comm, List.all_eq_false]
        exact ⟨m₀, hm₀, h m₀ hm₀⟩
  · rintro m rfl
    rw [hagrees, Source.members, List.any_cons, List.all_cons]
    simp

end Sources

def pairedText (url : String) : String :=
  if url = "http://127.0.0.1:8080/metrics" then "m 1\nn 2\n" else "n 3\n"

def pairedNetwork : Network StandIn.State :=
  ⟨fun url w => (.answered 200 (pairedText url), w), fun _ w => (.ok (), w)⟩

def pairedWorld : World StandIn.State :=
  ⟨.empty, .empty, { StandIn.State.empty with
    staging := (StandIn.Staging.empty.pin "one" "http" 8080).pin "two" "http" 8081 }⟩

def pair : List Instrumented := [⟨0, ⟨"http", "/metrics", .http⟩⟩, ⟨1, ⟨"http", "/metrics", .http⟩⟩]

def pairedDocument (m : Instrumented) : String :=
  if m.runnable = 0 then "m 1\nn 2\n" else "n 3\n"

def pairedFamilies (m : Instrumented) : Families :=
  ((parse (pairedDocument m)).toOption).getD .empty

theorem scraped_paired {e e' : Environment StandIn.State String}
    (h : Scraped pairedNetwork ms e e') : e' = e := by
  induction h with
  | start => rfl
  | @next e' m before hm ih =>
    subst ih
    unfold Act.after scrape
    split
    · rfl
    · split
      · rfl
      · dsimp only [pairedNetwork]
        split <;> rfl

theorem exists_serving_pair : ∃ e : Environment StandIn.State String,
    e.Reachable StandIn.backend pairedNetwork ∧ e.nameOf 1 = "two" ∧
    Serving pairedNetwork pair pairedDocument pairedFamilies e := by
  obtain ⟨e, hr, hp⟩ := Environment.exists_reachable StandIn.backend pairedNetwork (.ofName "bed")
    "/tmp" "Ab3dE9" pairedWorld
    [.initialise ⟨"one", .ofList [("http", 80)]⟩ (.ofImage "image"), .start 0,
      .initialise ⟨"two", .ofList [("http", 80)]⟩ (.ofImage "image"), .start 1]
    (fun e => e.nameOf 1 = "two" ∧ ∀ m ∈ pair,
      (scrape pairedNetwork m e).1.toOption.any (· = pairedDocument m)) (by decide +kernel)
  obtain ⟨hname, hs⟩ := of_decide_eq_true hp
  have hparse : ∀ m ∈ pair, (parse (pairedDocument m)).isOk = true := by decide +kernel
  refine ⟨e, hr, hname, ⟨fun e' he' m hm => ?_, fun m hm => ?_⟩⟩
  · obtain ⟨text, hscrape, htext⟩ := Environment.exists_of_toOption (hs m hm)
    rw [scraped_paired he', hscrape, of_decide_eq_true htext]
  · have hok := hparse m hm
    rw [pairedFamilies]
    cases hx : parse (pairedDocument m) with
    | ok fs => rfl
    | error err =>
      rw [hx] at hok
      cases hok

theorem presence_agrees_iff_pair : ∃ e : Environment StandIn.State String,
    e.Reachable StandIn.backend pairedNetwork ∧
    (Source.composite "service" pair).Agrees pairedNetwork "n" (selecting []) e ∧
    ∃ sums, ((Source.composite "service" pair).sums pairedNetwork ["n"] (selecting []) e).1 =
      .ok sums := by
  obtain ⟨e, hr, -, hserving⟩ := exists_serving_pair
  have hfound : ∀ m ∈ pair, (selecting []).finds "n" (pairedFamilies m) := by decide +kernel
  obtain ⟨-, hsums, -, hagrees, -⟩ := presence_agrees_iff
    "n" (.composite "service" pair) hserving (List.cons_ne_nil _ _) (s := selecting []) rfl
  exact ⟨e, hr, hagrees.mpr (.inl hfound), hsums.mpr hfound⟩

theorem presence_of_one_member : ∃ e : Environment StandIn.State String,
    e.Reachable StandIn.backend pairedNetwork ∧
    Source.compose "service" pair = .ok (.composite "service" pair) ∧
    Serving pairedNetwork pair pairedDocument pairedFamilies e ∧
    let source := Source.composite "service" pair
    (source.exports pairedNetwork "m" (selecting []) e).1 = .ok true ∧
    (source.sums pairedNetwork ["m"] (selecting []) e).1 = .error (.missingMetric "m" "two") ∧
    ¬source.Agrees pairedNetwork "m" (selecting []) e := by
  obtain ⟨e, hr, hname, hserving⟩ := exists_serving_pair
  have hany : (pair.any fun m => (selecting []).finds "m" (pairedFamilies m)) = true := by
    decide +kernel
  have hlacks : pair.find? (fun m => !(selecting []).finds "m" (pairedFamilies m)) =
      some ⟨1, ⟨"http", "/metrics", .http⟩⟩ := by
    rfl
  obtain ⟨e', -, hx⟩ := exports_of_serving "m" (.composite "service" pair) hserving
    (selecting []) .start
  have hsums := sums_of_lacks "m" (.composite "service" pair) hserving (s := selecting []) rfl
    hlacks
  rw [hname] at hsums
  have hexports : ((Source.composite "service" pair).exports pairedNetwork "m" (selecting []) e).1 =
      .ok true := by
    rw [hx]
    exact congrArg _ hany
  refine ⟨e, hr, rfl, hserving, hexports, hsums, fun h => ?_⟩
  obtain ⟨sums, hok⟩ := h.present.mp hexports
  rw [hsums] at hok
  cases hok

end Testbed.Metrics
