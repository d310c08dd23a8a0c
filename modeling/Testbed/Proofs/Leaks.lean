import Testbed.Proofs.Teardown

/-!
What a close leaves running without having asked for its end. Runnables leave the list of
started runnables by name, so that one may be missing from it because another one was halted.
-/
namespace Testbed

open Environment History

variable {σ κ : Type} {e e' : Environment σ κ} {h : List (Happening κ)} {i : Nat}

def Happening.kills (i : Nat) : Happening κ → Bool
  | .halted .kill j _ _ => j == i
  | _ => false

namespace Environment

variable (b : Backend σ κ) (net : Network σ)

theorem killAll_kills (hh : e.Held) (hs : e.Shut) (l : List Nat) (i : Nat) :
    ∃ h, Winds e (killAll b l e) h ∧
      ((∃ x ∈ h, x.kills i = true) ↔ i ∈ l ∧ (e.workloads i).isSome) := by
  induction l generalizing e with
  | nil => exact ⟨[], .refl hh hs, by simp⟩
  | cons a l ih =>
    rw [killAll_cons]
    cases ha : e.workloads a with
    | none =>
      have hsame : (halt b .kill a).after e = e := by rw [Act.after, halt_idle b hh .kill ha]
      obtain ⟨h, hw, hk⟩ := ih hh hs
      rw [hsame]
      refine ⟨h, hw, hk.trans ⟨fun hi => ⟨List.mem_cons_of_mem a hi.1, hi.2⟩, ?_⟩⟩
      rintro ⟨hi, hsome⟩
      rcases List.mem_cons.mp hi with rfl | hi
      · rw [ha] at hsome
        cases hsome
      · exact ⟨hi, hsome⟩
    | some w =>
      obtain ⟨hx, -⟩ := halt_shut b hh hs .kill ha
      obtain ⟨h, hw, hk⟩ := ih hx.held hx.shut
      refine ⟨_, hx.trans hw, ?_⟩
      by_cases hi : i = a
      · subst hi
        simp [Happening.kills, ha]
      · rw [hx.workloads_of_ne hi] at hk
        simpa [Happening.kills, Ne.symm hi, hi] using hk

def closingKills (e : Environment σ κ) : List (Happening κ) :=
  if e.closed then []
  else
    (killAll b e.started.reverse (e.runClosers b net)).history.drop
      (e.runClosers b net).history.length

/-- A close returns, a workload of the runnable has not been halted since it was launched, and
the close has not called for its kill. -/
def Leaks (i : Nat) (e : Environment σ κ) : Prop :=
  (∃ post, Since i (close b net e).history post) ∧
    ∀ x ∈ closingKills b net e, x.kills i = false

theorem closingKills_iff (hh : e.Held) (ho : e.closed = false) (i : Nat) :
    (∃ x ∈ closingKills b net e, x.kills i = true) ↔
      i ∈ e.started ∧ ((e.runClosers b net).workloads i).isSome := by
  obtain ⟨_, hs⟩ := runClosers_winds b net hh
  obtain ⟨h, hw, hk⟩ := killAll_kills b hs.held hs.shut e.started.reverse i
  have hh : closingKills b net e = h := by
    simp [closingKills, ho, hw.history]
  rw [hh, hk, List.mem_reverse]

theorem Winds.workloads_isSome (hw : Winds e e' h)
    (hs : (e'.workloads i).isSome) : (e.workloads i).isSome := by
  rcases hw.workloads_eq_or_none i with heq | hnone
  · rwa [heq] at hs
  · rw [hnone] at hs
    cases hs

theorem runClosers_isSome_of_close (hh : e.Held) (ho : e.closed = false)
    (hs : ((close b net e).workloads i).isSome) :
    ((e.runClosers b net).workloads i).isSome := by
  obtain ⟨_, hg⟩ := runClosers_winds b net hh
  obtain ⟨_, hk⟩ := killAll_winds b hg.held hg.shut e.started.reverse
  rw [close_of_open b net ho] at hs
  exact hk.workloads_isSome hs

theorem leaks_iff_of_open (hh : e.Held) (ho : e.closed = false)
    (hi : (∃ post, Since i e.history post) ↔ (e.workloads i).isSome) :
    Leaks b net i e ↔ (close b net e).isRunning i = true ∧ i ∉ e.started := by
  obtain ⟨g, hw⟩ := close_winds b net hh ho
  have hrun : (∃ post, Since i (close b net e).history post) ↔
      ((close b net e).workloads i).isSome := by
    rw [hw.history, exists_since_append hw.launchless, hi, hw.workloads, Option.isSome_iff_ne_none,
      Option.isSome_iff_ne_none, ne_eq, ne_eq, live_eq_none_iff hw.launchless, not_or]
    simp
  have hkills := closingKills_iff b net hh ho i
  rw [Leaks, hrun, hw.held.isRunning]
  constructor
  · rintro ⟨hs, hn⟩
    refine ⟨hs, fun hmem => ?_⟩
    obtain ⟨x, hx, hxi⟩ := hkills.mpr ⟨hmem, runClosers_isSome_of_close b net hh ho hs⟩
    rw [hn x hx] at hxi
    cases hxi
  · rintro ⟨hs, hn⟩
    refine ⟨hs, fun x hx => ?_⟩
    cases hxi : x.kills i with
    | false => rfl
    | true => exact absurd (hkills.mp ⟨x, hx, hxi⟩).1 hn

theorem Faithful.since_iff (hf : e.Faithful) (i : Nat) :
    (∃ post, Since i e.history post) ↔ (e.workloads i).isSome := by
  rw [exists_since_iff (s := idle) rfl, hf.workloads]

theorem Faithful.overtaken_iff (hf : e.Faithful) (ho : e.closed = false) (i : Nat) :
    Overtaken e.nameOf i e.history ↔ (e.workloads i).isSome ∧ i ∉ e.started := by
  rw [History.overtaken_iff rfl hf.orderly, ← hf.workloads, ← hf.started ho]

theorem since_launching_iff (hf : e.Faithful) {j : Nat} (hj : e.workloads j = none)
    (result : Except Failure (Workload κ)) :
    (∃ post, Since i (e.history ++ [.launched j result.toOption]) post) ↔
      (i = j ∧ ∃ w, result = .ok w) ∨ (e.workloads i).isSome := by
  simp only [since_concat]
  rw [← hf.since_iff]
  constructor
  · rintro ⟨_, ⟨hl, -⟩ | ⟨-, post, hp, -⟩⟩
    · obtain ⟨w, hx⟩ := Happening.exists_of_launches hl
      cases result with
      | error f => cases hx
      | ok w' =>
        cases hx
        exact .inl ⟨rfl, w, rfl⟩
    · exact .inr ⟨post, hp⟩
  · rintro (⟨rfl, w, rfl⟩ | ⟨post, hp⟩)
    · exact ⟨[], .inl ⟨by simp [Happening.launches, Happening.launchOf?, Except.toOption], rfl⟩⟩
    · exact ⟨_, .inr ⟨rfl, post, hp, rfl⟩⟩

theorem leaks_launched_iff {m : Environment σ κ} (hh : m.Held) (ho : m.closed = false)
    (hi : m.workloads i = none) :
    Leaks b net i m ↔ ∃ post, Since i m.history post := by
  obtain ⟨_, hw⟩ := close_winds b net hh ho
  have hunhalted := not_halts_of_idle hw.orderly hw.launchless hi
  have hunkilled : ∀ x ∈ closingKills b net m, x.kills i = false := by
    intro x hx
    cases hxi : x.kills i with
    | false => rfl
    | true =>
      obtain ⟨_, hg⟩ := runClosers_winds b net hh
      have hsome := hg.workloads_isSome ((closingKills_iff b net hh ho i).mp ⟨x, hx, hxi⟩).2
      rw [hi] at hsome
      cases hsome
  rw [Leaks, hw.history, exists_since_append hw.launchless]
  exact ⟨fun hl => hl.1.1, fun hs => ⟨⟨hs, hunhalted⟩, hunkilled⟩⟩

theorem leaks_in_launch_iff (hf : e.Faithful) (ho : e.closed = false) {j : Nat}
    {r : Runnable κ} {l : Launching κ} {m : Environment σ κ} (hj : e.isRunning j = false)
    (hm : launching b j r e = (l, m)) :
    Leaks b net i m ↔ (i = j ∧ ∃ w, l.result = .ok w) ∨
      ((close b net m).isRunning i = true ∧ i ∉ e.started) := by
  obtain ⟨hh, hmo, hs, hwork, hhist⟩ := launching_frame b hm
  have hh := hh hf.held
  rw [ho] at hmo
  have hnone : e.workloads j = none := by
    rw [hf.held.isRunning] at hj
    simpa using hj
  have hsince := since_launching_iff (i := i) hf hnone l.result
  rw [← hhist, ← hwork] at hsince
  by_cases hij : i = j
  · subst hij
    obtain ⟨_, hw⟩ := close_winds b net hh hmo
    have hmi : m.workloads i = none := by rw [hwork, hnone]
    have hstill : (close b net m).isRunning i = false := by
      rw [hw.held.isRunning, hw.workloads, (live_eq_none_iff hw.launchless).mpr (.inl hmi)]
      rfl
    rw [leaks_launched_iff b net hh hmo hmi, hsince, hmi, hstill]
    simp
  · simp only [hij, false_and, false_or] at hsince ⊢
    rw [leaks_iff_of_open b net hh hmo hsince, hs]

variable {b net}

/-- What a close leaks, exactly: what still runs when it is over, and was overtaken by the halt
of a namesake or left over by an earlier close. A close during a launch also leaks the workload
that comes up. -/
theorem leaks_iff (hr : e.Reachable b net) (i : Nat) :
    (Leaks b net i e ↔ (close b net e).isRunning i = true ∧
      (e.closed = true ∨ Overtaken e.nameOf i e.history)) ∧
    ∀ j r l m, e.closed = false → e.isRunning j = false → launching b j r e = (l, m) →
      (Leaks b net i m ↔ (i = j ∧ ∃ w, l.result = .ok w) ∨
        ((close b net m).isRunning i = true ∧ Overtaken e.nameOf i e.history)) := by
  have hf := hr.faithful
  -- what runs after a close ran before it, so that it was overtaken unless it was listed
  have hleft : ∀ m : Environment σ κ, m.Held → m.closed = false → m.workloads = e.workloads →
      e.closed = false → (close b net m).isRunning i = true →
      (Overtaken e.nameOf i e.history ↔ i ∉ e.started) := by
    intro m hh hmo hwork ho hrun
    obtain ⟨_, hw⟩ := close_winds b net hh hmo
    rw [hw.held.isRunning] at hrun
    have hsome := hw.workloads_isSome hrun
    rw [hwork] at hsome
    rw [hf.overtaken_iff ho]
    exact ⟨fun hov => hov.2, fun hn => ⟨hsome, hn⟩⟩
  constructor
  · cases ho : e.closed with
    | true =>
      rw [Leaks, close_of_closed b net ho, hf.since_iff, hf.held.isRunning]
      simp [closingKills, ho]
    | false =>
      rw [leaks_iff_of_open b net hf.held ho (hf.since_iff i)]
      simp only [Bool.false_eq_true, false_or]
      exact and_congr_right fun hrun => (hleft e hf.held ho rfl ho hrun).symm
  · intro j r l m ho hj hm
    obtain ⟨hh, hmo, -, hwork, -⟩ := launching_frame b hm
    rw [ho] at hmo
    rw [leaks_in_launch_iff b net hf ho hj hm]
    exact or_congr_right (and_congr_right fun hrun =>
      (hleft m (hh hf.held) hmo hwork ho hrun).symm)

def cloning : List Request :=
  [.reserve "a", .settle ⟨"a", .empty⟩, .initialise ⟨"a", .empty⟩ (.ofImage "image"),
    .initialise ⟨"a", .empty⟩ (.ofImage "image"), .start 0, .start 1, .halt .stop 0]

theorem exists_cloned : ∃ e : Environment StandIn.State String,
    e.Reachable StandIn.backend StandIn.network ∧ e.closed = false ∧ e.started = [] ∧
    e.isRunning 0 = false ∧
    (close StandIn.backend StandIn.network e).isRunning 1 = true ∧
    ∃ r, (close StandIn.backend StandIn.network
      (launching StandIn.backend 0 r e).2).isRunning 1 = true := by
  obtain ⟨e, hr, hp⟩ := exists_reachable StandIn.backend StandIn.network (.ofName "bed") "/tmp"
    "Ab3dE9" ⟨.empty, .empty, .empty⟩ cloning
    (fun e => e.closed = false ∧ e.started = [] ∧ e.isRunning 0 = false ∧
      (close StandIn.backend StandIn.network e).isRunning 1 = true ∧
      e.runnables[0]?.any (fun r => (close StandIn.backend StandIn.network
        (launching StandIn.backend 0 r e).2).isRunning 1)) (by decide +kernel)
  obtain ⟨ho, hs, hstill, hrun, hlaunch⟩ := of_decide_eq_true hp
  obtain ⟨r, -, hlaunch⟩ := (Option.any_eq_true _ _).mp hlaunch
  exact ⟨e, hr, ho, hs, hstill, hrun, r, hlaunch⟩

theorem leaks_iff_cloning : ∃ e : Environment StandIn.State String,
    e.Reachable StandIn.backend StandIn.network ∧ e.closed = false ∧
    Overtaken e.nameOf 1 e.history ∧ Leaks StandIn.backend StandIn.network 1 e ∧
    ∃ r, Leaks StandIn.backend StandIn.network 1 (launching StandIn.backend 0 r e).2 := by
  obtain ⟨e, hr, ho, hs, hstill, hrun, r, hlaunch⟩ := exists_cloned
  have hf := hr.faithful
  have hsome : (e.workloads 1).isSome := by
    obtain ⟨_, hw⟩ := close_winds StandIn.backend StandIn.network hf.held ho
    rw [hw.held.isRunning] at hrun
    exact hw.workloads_isSome hrun
  have hov := (hf.overtaken_iff ho 1).mpr ⟨hsome, by simp [hs]⟩
  obtain ⟨hleak, hleak'⟩ := leaks_iff hr 1
  exact ⟨e, hr, ho, hov, hleak.mpr ⟨hrun, .inr hov⟩, r,
    (hleak' 0 r _ _ ho hstill rfl).mpr (.inr ⟨hlaunch, hov⟩)⟩

theorem leaks_of_cloning : ¬∀ e : Environment StandIn.State String,
    e.Reachable StandIn.backend StandIn.network → ∀ i,
      ¬Leaks StandIn.backend StandIn.network i e := by
  intro hall
  obtain ⟨e, hr, ho, hs, -, hrun, -⟩ := exists_cloned
  have hf := hr.faithful
  exact hall e hr 1 ((leaks_iff_of_open _ _ hf.held ho (hf.since_iff 1)).mpr
    ⟨hrun, by simp [hs]⟩)

end Environment

end Testbed
