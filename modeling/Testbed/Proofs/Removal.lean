import Mathlib.Tactic.IntervalCases
import Testbed.Proofs.Members
import Testbed.Proofs.Pacing

/-!
Waiting until a metric is gone, told by the outcomes of the searches for it. A wait ends with the
first search that does not find the metric, one that fails included; without one it makes as many
as its policy allows. It is broken off after a search whose delay cannot be drawn. Members of a
composite are all searched in the round that ends it well.
-/
namespace Testbed.Metrics

section Rounds

variable {S : Type} (look : Act S Bool) (st : S)

def tallied : Act (S × Nat) Bool := fun p =>
  let (r, st) := look p.1
  (r, (st, p.2 + 1))

def Persists (n : Nat) : Prop := ∀ j < n, retryOutcome look st j = .ok true

variable {look st} {n : Nat}

theorem retried_tallied (n : Nat) : retried (tallied look) (st, 0) n = (retried look st n, n) := by
  induction n with
  | zero => rfl
  | succ n ih => exact congrArg (fun p => (tallied look p).2) ih

theorem retryOutcome_tallied : retryOutcome (tallied look) (st, 0) = retryOutcome look st := by
  funext n
  exact congrArg (fun p => (tallied look p).1) (retried_tallied n)

theorem persists_tallied : Persists (tallied look) (st, 0) n ↔ Persists look st n := by
  rw [Persists, Persists, retryOutcome_tallied]

theorem removalRound_eq_inr_iff {s s' : S} :
    removalRound look () s = (.inr (), s') ↔ look s = (.ok true, s') := by
  unfold removalRound
  split <;> simp_all

theorem unsettled_removal_iff {s' : S} : Unsettled (removalRound look) () st n () s' ↔
    Persists look st n ∧ s' = retried look st n := by
  induction n generalizing s' with
  | zero =>
    refine ⟨fun h => ?_, fun ⟨_, h⟩ => h ▸ .start⟩
    cases h
    exact ⟨fun j hj => absurd hj (Nat.not_lt_zero j), rfl⟩
  | succ n ih =>
    refine ⟨fun h => ?_, fun ⟨h, hs'⟩ => ?_⟩
    · cases h with
      | next before last =>
        obtain ⟨hbefore, rfl⟩ := ih.mp before
        have hlook := removalRound_eq_inr_iff.mp last
        exact ⟨Nat.forall_lt_succ_right.mpr ⟨hbefore, congrArg Prod.fst hlook⟩,
          (congrArg Prod.snd hlook).symm⟩
    · obtain ⟨hbefore, hlast⟩ := Nat.forall_lt_succ_right.mp h
      refine .next (ih.mpr ⟨hbefore, rfl⟩) (removalRound_eq_inr_iff.mpr ?_)
      rw [hs']
      exact attempt_retried hlast

theorem removalRound_of_missed (hr : retryOutcome look st n = .ok false) :
    removalRound look () (retried look st n) = (.inl (.ok ()), retried look st (n + 1)) := by
  rw [removalRound, attempt_retried hr]

theorem removalRound_eq_ok_iff {st' : S} :
    removalRound look () (retried look st n) = (.inl (.ok ()), st') ↔
      retryOutcome look st n = .ok false ∧ st' = retried look st (n + 1) := by
  have hlook : look (retried look st n) = (retryOutcome look st n, retried look st (n + 1)) := rfl
  rw [removalRound, hlook]
  rcases retryOutcome look st n with f | _ | _ <;> simp [eq_comm]

theorem removalRound_of_failed {f : Failure} (hr : retryOutcome look st n = .error f) :
    removalRound look () (retried look st n) = (.inl (.error f), retried look st (n + 1)) := by
  rw [removalRound, attempt_retried hr]

variable {s : Selection} (source name : String)

def Drawn (s : Selection) (n : Nat) : Prop := ∀ j < n, ¬s.waitPolicy.Blocked j

theorem waitRemoved_of_settled (hn : n < s.waitPolicy.attempts) (h : Persists look st n)
    (hd : Drawn s n) {r : Except Failure Unit} {st' : S}
    (hround : removalRound look () (retried look st n) = (.inl r, st')) :
    waitRemoved source look name s st = (r, st') := by
  rw [waitRemoved, (unsettled_removal_iff.mpr ⟨h, rfl⟩).paced_of_settled hd hn hround]

theorem waitRemoved_of_persists (h : Persists look st s.waitPolicy.attempts)
    (hd : Drawn s (s.waitPolicy.attempts - 1)) :
    waitRemoved source look name s st =
      (.error (.expectationNotMet source [name] "metric no longer exported" [] none),
        retried look st s.waitPolicy.attempts) := by
  have hrounds := unsettled_removal_iff.mpr ⟨h, rfl⟩
  rw [waitRemoved, hrounds.paced_of_exhausted fun j hj => hd j (Nat.lt_sub_of_add_lt hj)]

theorem waitRemoved_of_blocked (hn : n + 1 < s.waitPolicy.attempts) (h : Persists look st (n + 1))
    (hd : Drawn s n) (hb : s.waitPolicy.Blocked n) :
    waitRemoved source look name s st =
      (.error (.panicked Wait.emptyWindow), retried look st (n + 1)) := by
  rw [waitRemoved, (unsettled_removal_iff.mpr ⟨h, rfl⟩).paced_of_blocked hn hd hb]

theorem waitRemoved_eq_ok_iff {st' : S} : waitRemoved source look name s st = (.ok (), st') ↔
    ∃ i < s.waitPolicy.attempts, Drawn s i ∧ Persists look st i ∧
      retryOutcome look st i = .ok false ∧ st' = retried look st (i + 1) := by
  have hsettled : waitRemoved source look name s st = (.ok (), st') ↔
      paced s.waitPolicy (removalRound look) () st = (.settled (.ok ()), st') := by
    unfold waitRemoved
    split <;> next heq => simp [heq]
  rw [hsettled, paced_eq_settled_iff]
  constructor
  · rintro ⟨i, ⟨⟩, st₁, hi, hd, hun, hr⟩
    obtain ⟨hbefore, rfl⟩ := unsettled_removal_iff.mp hun
    obtain ⟨hmissed, rfl⟩ := removalRound_eq_ok_iff.mp hr
    exact ⟨i, hi, hd, hbefore, hmissed, rfl⟩
  · rintro ⟨i, hi, hd, hbefore, hmissed, rfl⟩
    exact ⟨i, (), _, hi, hd, unsettled_removal_iff.mpr ⟨hbefore, rfl⟩,
      removalRound_of_missed hmissed⟩

theorem waitRemoved_tallied (p : S × Nat) :
    ((waitRemoved source (tallied look) name s p).1,
      (waitRemoved source (tallied look) name s p).2.1) = waitRemoved source look name s p.1 := by
  have hround : ∀ (u : Unit) (p : S × Nat), ((removalRound (tallied look) u p).1,
      (removalRound (tallied look) u p).2.1) = removalRound look u p.1 := by
    intro u p
    simp only [removalRound, tallied]
    rcases look p.1 with ⟨_ | _ | _, st⟩ <;> rfl
  have hwait := paced_view Prod.fst hround s.waitPolicy () p
  rw [waitRemoved, waitRemoved, ← hwait]
  rcases paced s.waitPolicy (removalRound (tallied look)) () p with ⟨r | _ | _, t⟩ <;> rfl

end Rounds

section Lacking

variable {σ κ : Type} {net : Network σ} {name : String} {s : Selection}

theorem exists_of_families {m : Instrumented} {e e' : Environment σ κ} {fs : Families}
    (h : families net m e = (.ok fs, e')) :
    ∃ text, (scrape net m e).1 = .ok text ∧ parse text = .ok fs := by
  obtain ⟨text, _, hscrape, h⟩ := Act.bind_eq_ok.mp h
  obtain ⟨_, _, -, h⟩ := Act.bind_eq_ok.mp h
  refine ⟨text, congrArg Prod.fst hscrape, ?_⟩
  cases hparse : parse text with
  | error => rw [hparse] at h; cases h
  | ok => rw [hparse] at h; cases h; rfl

theorem exportsOf_eq_ok_iff {m : Instrumented} {e : Environment σ κ} {found : Bool} :
    (exportsOf net m name s e).1 = .ok found ↔ ∃ text fs,
      (scrape net m e).1 = .ok text ∧ parse text = .ok fs ∧ s.finds name fs = found := by
  refine ⟨fun h => ?_, fun ⟨text, fs, hscrape, hparse, hfound⟩ => ?_⟩
  · have hx : exportsOf net m name s e = (.ok found, (exportsOf net m name s e).2) := Prod.ext h rfl
    obtain ⟨fs, _, hfamilies, -⟩ := Act.bind_eq_ok.mp hx
    obtain ⟨text, hscrape, hparse⟩ := exists_of_families hfamilies
    rw [exportsOf_of_scrape hscrape hparse] at h
    exact ⟨text, fs, hscrape, hparse, Except.ok.inj h⟩
  · rw [exportsOf_of_scrape hscrape hparse, hfound]

/-- In one round every member in turn serves a document that has no selected series of a metric. -/
def LackedBy (net : Network σ) (name : String) (s : Selection) (ms : List Instrumented)
    (e : Environment σ κ) : Prop :=
  ∀ k m, ms[k]? = some m → ∃ text fs,
    (scrape net m (afterAll (scrape net) (ms.take k) e)).1 = .ok text ∧ parse text = .ok fs ∧
      s.finds name fs = false

theorem answers_eq_false_iff {ms : List Instrumented} {e : Environment σ κ} :
    (∀ r ∈ answers (fun m => exportsOf net m name s) ms e, r = .ok false) ↔
      LackedBy net name s ms e := by
  refine ⟨fun h k m hm => ?_, fun h r hr => ?_⟩
  · have hat := getElem?_answers (fun m => exportsOf net m name s) ms e k
    rw [hm, Option.map_some, afterAll_exportsOf] at hat
    exact exportsOf_eq_ok_iff.mp (h _ (List.mem_of_getElem? hat))
  · obtain ⟨k, hk⟩ := List.getElem?_of_mem hr
    rw [getElem?_answers, afterAll_exportsOf] at hk
    obtain ⟨m, hm, rfl⟩ := Option.map_eq_some_iff.mp hk
    exact exportsOf_eq_ok_iff.mpr (h k m hm)

theorem exports_eq_false_iff {title : String} {ms : List Instrumented} {e : Environment σ κ} :
    ((Source.composite title ms).exports net name s e).1 = .ok false ↔
      LackedBy net name s ms e := by
  rw [Source.exports, Source.members, anyExports_eq, lookUp, askEach_eq,
    settle_stopAt_eq_false_iff, answers_eq_false_iff]

theorem LackedBy.exports_after {title : String} {ms : List Instrumented} {e : Environment σ κ}
    (h : LackedBy net name s ms e) :
    ((Source.composite title ms).exports net name s e).2 = afterAll (scrape net) ms e := by
  have hanswers := List.eq_replicate_iff.mpr ⟨length_answers _ ms e, answers_eq_false_iff.mpr h⟩
  rw [exports_eq_noted, notedSearch, lookUp_of_none hanswers, afterAll_exportsOf]

theorem scraped_afterAll {all ms : List Instrumented} {e₀ e : Environment σ κ}
    (hms : ∀ m ∈ ms, m ∈ all) (he : Scraped net all e₀ e) :
    Scraped net all e₀ (afterAll (scrape net) ms e) := by
  induction ms generalizing e with
  | nil => exact he
  | cons m ms ih =>
    obtain ⟨hm, hms⟩ := List.forall_mem_cons.mp hms
    exact ih hms (he.next hm)

theorem Serving.lackedBy {ms : List Instrumented} {documents : Instrumented → String}
    {fs : Instrumented → Families} {e : Environment σ κ} (hserving : Serving net ms documents fs e)
    (h : ∀ m ∈ ms, s.finds name (fs m) = false) : LackedBy net name s ms e := by
  intro k m hm
  have hms := List.mem_of_getElem? hm
  have hscraped : Scraped net ms e (afterAll (scrape net) (ms.take k) e) :=
    scraped_afterAll (fun _ => List.mem_of_mem_take) .start
  exact ⟨documents m, fs m, hserving.served _ hscraped m hms, hserving.parsed m hms, h m hms⟩

theorem waitRemoved_composite_iff {title source : String} {ms : List Instrumented}
    {e e' : Environment σ κ} :
    let look := (Source.composite title ms).exports net name s
    waitRemoved source look name s e = (.ok (), e') ↔
      ∃ i < s.waitPolicy.attempts, Drawn s i ∧ Persists look e i ∧
        LackedBy net name s ms (retried look e i) ∧
        e' = afterAll (scrape net) ms (retried look e i) := by
  intro look
  rw [waitRemoved_eq_ok_iff]
  refine exists_congr fun i => and_congr_right fun _ => and_congr_right fun _ =>
    and_congr_right fun _ => ?_
  -- The search misses the metric only after it asked all members, so they were all scraped.
  refine (and_congr_left' exports_eq_false_iff).trans (and_congr_right fun h => ?_)
  have hnext : retried look e (i + 1) = afterAll (scrape net) ms (retried look e i) :=
    h.exports_after
  rw [hnext]

end Lacking

/-- A wait for the removal of a metric ends with the first search, of those it may make, that misses
the metric or fails: well if it misses it, with the failure if it fails. If all find the metric it
makes them all and tells that it is still there. This holds as long as the delays between its
searches can be drawn; the first that cannot be breaks the wait off. For a composite it ends well
exactly with a round in which every member serves a document that has no selected series of the
metric. -/
theorem waitRemoved_until_decisive {S : Type} (look : Act S Bool) (st : S) (source name : String)
    (s : Selection) :
    let wait := waitRemoved source (tallied look) name s (st, 0)
    let most := Max.max 1 s.waitPolicy.retries
    let drawn := fun n => ∀ j < n, ¬s.waitPolicy.Blocked j
    let reached := retried look st
    (wait.1, wait.2.1) = waitRemoved source look name s st ∧
    (∀ i < most, drawn i → (∀ j < i, retryOutcome look st j = .ok true) →
      (retryOutcome look st i = .ok false → wait = (.ok (), (reached (i + 1), i + 1))) ∧
      ∀ f, retryOutcome look st i = .error f → wait = (.error f, (reached (i + 1), i + 1))) ∧
    (drawn (most - 1) → (∀ j < most, retryOutcome look st j = .ok true) →
      wait = (.error (.expectationNotMet source [name] "metric no longer exported" [] none),
        (reached most, most))) ∧
    (∀ i, i + 1 < most → drawn i → s.waitPolicy.Blocked i →
      (∀ j < i + 1, retryOutcome look st j = .ok true) →
      wait = (.error (.panicked Wait.emptyWindow), (reached (i + 1), i + 1))) ∧
    ∀ (σ κ : Type) (net : Network σ) (title : String) (ms : List Instrumented)
      (e e' : Environment σ κ),
      let look := (Source.composite title ms).exports net name s
      waitRemoved title look name s e = (.ok (), e') ↔
        ∃ i < most, drawn i ∧ (∀ j < i, retryOutcome look e j = .ok true) ∧
          LackedBy net name s ms (retried look e i) ∧
          e' = afterAll (scrape net) ms (retried look e i) := by
  intro wait most drawn reached
  refine ⟨waitRemoved_tallied source name (st, 0),
    fun i hi hd h => ⟨fun hr => ?_, fun f hr => ?_⟩, fun hd h => ?_, fun i hi hd hb h => ?_,
    fun σ κ net title ms e e' => waitRemoved_composite_iff⟩
  · rw [← retryOutcome_tallied] at hr
    rw [← retried_tallied]
    exact waitRemoved_of_settled source name hi (persists_tallied.mpr h) hd
      (removalRound_of_missed hr)
  · rw [← retryOutcome_tallied] at hr
    rw [← retried_tallied]
    exact waitRemoved_of_settled source name hi (persists_tallied.mpr h) hd
      (removalRound_of_failed hr)
  · rw [← retried_tallied]
    exact waitRemoved_of_persists source name (persists_tallied.mpr h) hd
  · rw [← retried_tallied]
    exact waitRemoved_of_blocked source name hi (persists_tallied.mpr h) hd hb

def fading : Act Nat Bool := fun n => (.ok (decide (n < 2)), n + 1)

theorem waitRemoved_until_decisive_fading :
    let wait := fun retries => waitRemoved "a" (tallied fading) "jobs"
      ⟨[], .value, .fail, some ⟨.ofMillis 1, .ofMillis 1, retries⟩⟩ (0, 0)
    wait 5 = (.ok (), (3, 3)) ∧
    wait 2 = (.error (.expectationNotMet "a" ["jobs"] "metric no longer exported" [] none),
      (2, 2)) ∧
    ∃ e : Environment StandIn.State String, e.Reachable StandIn.backend pairedNetwork ∧
      waitRemoved "service" ((Source.composite "service" pair).exports pairedNetwork "k"
        (selecting [])) "k" (selecting []) e = (.ok (), e) := by
  have hfound : ∀ j < 2, retryOutcome fading 0 j = .ok true := by
    intro j hj
    interval_cases j <;> rfl
  have hdrawn : ∀ retries j, ¬Policy.Blocked ⟨.ofMillis 1, .ofMillis 1, retries⟩ j :=
    fun _ => Policy.not_blocked_of_le (show (1000000 : Nat) ≤ Wait.mostDrawable by decide)
  refine ⟨?_, ?_, ?_⟩
  · obtain ⟨-, h, -⟩ := waitRemoved_until_decisive fading 0 "a" "jobs"
      ⟨[], .value, .fail, some ⟨.ofMillis 1, .ofMillis 1, 5⟩⟩
    exact (h 2 (by decide) (fun j _ => hdrawn 5 j) hfound).1 rfl
  · obtain ⟨-, -, h, -⟩ := waitRemoved_until_decisive fading 0 "a" "jobs"
      ⟨[], .value, .fail, some ⟨.ofMillis 1, .ofMillis 1, 2⟩⟩
    exact h (fun j _ => hdrawn 2 j) hfound
  · obtain ⟨e, hr, -, hserving⟩ := exists_serving_pair
    obtain ⟨-, -, -, -, h⟩ := waitRemoved_until_decisive fading 0 "a" "k" (selecting [])
    have hlacks : LackedBy pairedNetwork "k" (selecting []) pair e :=
      hserving.lackedBy (by decide +kernel)
    have hscraped := scraped_paired (scraped_afterAll (fun _ hm => hm) .start : Scraped
      pairedNetwork pair e (afterAll (scrape pairedNetwork) pair e))
    exact ⟨e, hr, (h _ _ pairedNetwork "service" pair e e).mpr
      ⟨0, by decide, fun j hj => absurd hj (Nat.not_lt_zero j),
        fun j hj => absurd hj (Nat.not_lt_zero j), hlacks, hscraped.symm⟩⟩

theorem waitRemoved_broken_off : ¬∀ (look : Act Nat Bool) (st : Nat) (source name : String)
    (s : Selection),
    let most := Max.max 1 s.waitPolicy.retries
    (∀ j < most, retryOutcome look st j = .ok true) →
    ∃ f, waitRemoved source (tallied look) name s (st, 0) =
      (.error f, (retried look st most, most)) := by
  intro hall
  let look : Act Nat Bool := fun n => (.ok true, n)
  let s : Selection := ⟨[], .value, .fail, some Policy.vast⟩
  obtain ⟨f, hwait⟩ := hall look 0 "a" "jobs" s fun _ _ => rfl
  have hbroken : waitRemoved "a" (tallied look) "jobs" s (0, 0) =
      (.error (.panicked Wait.emptyWindow), retried (tallied look) (0, 0) 1) :=
    waitRemoved_of_blocked "a" "jobs" (by decide) (fun _ _ => rfl)
      (fun j hj => absurd hj (Nat.not_lt_zero j)) Policy.vast_blocked
  rw [hbroken, retried_tallied] at hwait
  cases hwait

end Testbed.Metrics
