import Mathlib.Data.List.Dedup
import Mathlib.Data.List.Induction
import Mathlib.Logic.Function.Basic
import Testbed.Environment.Basic

/-!
What a history says by itself: which workloads are live after it, whether each happening in it
was in place, and in which order it leaves the runnables that were started.
-/
namespace Testbed

variable {κ : Type}

abbrev Live (κ : Type) := Nat → Option (Workload κ)

def idle : Live κ := fun _ => none

namespace Happening

def apply : Happening κ → Live κ → Live κ
  | .launched i (some w), s => Function.update s i (some w)
  | .halted _ i _ true, s => Function.update s i none
  | _, s => s

/-- A launch is in place if the runnable has no live workload; a halt or a command, if the
workload it is asked of is the live one. -/
def InPlace (s : Live κ) : Happening κ → Prop
  | .launched i _ => s i = none
  | .halted _ i w _ => s i = some w
  | .executed i w _ => s i = some w
  | _ => True

def launchOf? : Happening κ → Option Nat
  | .launched i (some _) => some i
  | _ => none

def launches (i : Nat) (x : Happening κ) : Bool := x.launchOf? == some i

def isLaunch : Happening κ → Bool
  | .launched _ _ => true
  | _ => false

def halts (i : Nat) : Happening κ → Bool
  | .halted _ j _ true => j == i
  | _ => false

def runnable? : Happening κ → Option Nat
  | .launched i _ => some i
  | .halted _ i _ _ => some i
  | .executed i _ _ => some i
  | _ => none

def relist (names : Nat → String) : Happening κ → List Nat → List Nat
  | .launched i (some _), l => l ++ [i]
  | .halted _ i _ true, l => l.filter fun j => names j ≠ names i
  | _, l => l

variable {s : Live κ} {x : Happening κ} {i : Nat} {names : Nat → String} {l : List Nat}

theorem effect_cases (x : Happening κ) :
    (∃ i w, x = .launched i (some w)) ∨ (∃ how i w, x = .halted how i w true) ∨
      (x.launchOf? = none ∧ (∀ i, x.halts i = false) ∧ (∀ s, x.apply s = s) ∧
        ∀ names l, x.relist names l = l) := by
  cases x with
  | launched i w? =>
    cases w? with
    | none => exact .inr (.inr ⟨rfl, fun _ => rfl, fun _ => rfl, fun _ _ => rfl⟩)
    | some w => exact .inl ⟨i, w, rfl⟩
  | halted how i w ok =>
    cases ok with
    | false => exact .inr (.inr ⟨rfl, fun _ => rfl, fun _ => rfl, fun _ _ => rfl⟩)
    | true => exact .inr (.inl ⟨how, i, w, rfl⟩)
  | _ => exact .inr (.inr ⟨rfl, fun _ => rfl, fun _ => rfl, fun _ _ => rfl⟩)

theorem idle_of (hl : x.launchOf? = none) (hh : ∀ i, x.halts i = false) :
    (∀ s, x.apply s = s) ∧ ∀ names l, x.relist names l = l := by
  rcases effect_cases x with ⟨i, w, rfl⟩ | ⟨how, i, w, rfl⟩ | ⟨-, -, ha, hr⟩
  · cases hl
  · simp [halts] at hh
  · exact ⟨ha, hr⟩

theorem inPlace_of_runnable?_none (h : x.runnable? = none) : x.InPlace s := by
  cases x with
  | launched i w? => cases h
  | halted how i w ok => cases h
  | executed i w c => cases h
  | _ => trivial

theorem isLaunch_of_runnable?_none (h : x.runnable? = none) : x.isLaunch = false := by
  cases x with
  | launched i w? => cases h
  | _ => rfl

theorem launchOf?_of_isLaunch (h : x.isLaunch = false) : x.launchOf? = none := by
  cases x with
  | launched i w? => cases h
  | _ => rfl

theorem halts_of_runnable?_none (h : x.runnable? = none) (i : Nat) : x.halts i = false := by
  rcases effect_cases x with ⟨i, w, rfl⟩ | ⟨how, i, w, rfl⟩ | ⟨-, hh, -⟩
  · rfl
  · cases h
  · exact hh i

theorem launches_of_isLaunch (h : x.isLaunch = false) (i : Nat) : x.launches i = false := by
  simp [launches, launchOf?_of_isLaunch h]

theorem launches_iff : x.launches i = true ↔ x.launchOf? = some i := by simp [launches]

theorem exists_of_launches (h : x.launches i = true) : ∃ w, x = .launched i (some w) := by
  rw [launches_iff] at h
  rcases effect_cases x with ⟨j, w, rfl⟩ | ⟨how, j, w, rfl⟩ | ⟨hn, -⟩
  · cases h
    exact ⟨w, rfl⟩
  · cases h
  · rw [hn] at h
    cases h

theorem exists_of_halts (h : x.halts i = true) : ∃ how w, x = .halted how i w true := by
  rcases effect_cases x with ⟨j, w, rfl⟩ | ⟨how, j, w, rfl⟩ | ⟨-, hn, -⟩
  · cases h
  · obtain rfl : j = i := by simpa [halts] using h
    exact ⟨how, w, rfl⟩
  · rw [hn i] at h
    cases h

theorem apply_eq_of_ne (hl : x.launches i = false) (hh : x.halts i = false) :
    x.apply s i = s i := by
  rcases effect_cases x with ⟨j, w, rfl⟩ | ⟨how, j, w, rfl⟩ | ⟨-, -, ha, -⟩
  · have hne : i ≠ j := by rintro rfl; simp [launches, launchOf?] at hl
    exact Function.update_of_ne hne _ _
  · have hne : i ≠ j := by rintro rfl; simp [halts] at hh
    exact Function.update_of_ne hne _ _
  · rw [ha]

theorem isSome_of_halts (hx : x.InPlace s) (h : x.halts i = true) : (s i).isSome := by
  obtain ⟨how, w, rfl⟩ := exists_of_halts h
  have hs : s i = some w := hx
  simp [hs]

theorem apply_of_halts (h : x.halts i = true) : x.apply s i = none := by
  obtain ⟨how, w, rfl⟩ := exists_of_halts h
  exact Function.update_self _ _ _

theorem ne_of_live {j : Nat} {w : Workload κ} (hs : s i = none) (hj : s j = some w) :
    i ≠ j := by
  rintro rfl
  rw [hs] at hj
  cases hj

theorem InPlace.runnable?_ne (hx : x.InPlace s) (hl : x.isLaunch = false) (hs : s i = none) :
    x.runnable? ≠ some i := by
  cases x with
  | launched j w? => cases hl
  | halted how j w ok => simpa [runnable?] using (ne_of_live hs hx).symm
  | executed j w c => simpa [runnable?] using (ne_of_live hs hx).symm
  | _ => simp [runnable?]

theorem apply_update {w : Workload κ} (hx : x.InPlace s) (hl : x.isLaunch = false)
    (hs : s i = none) :
    x.InPlace (Function.update s i (some w)) ∧ x.apply s i = none ∧
      x.apply (Function.update s i (some w)) = Function.update (x.apply s) i (some w) := by
  cases x with
  | launched j w? => cases hl
  | halted how j w' ok =>
    have hj : s j = some w' := hx
    have hne := ne_of_live hs hj
    refine ⟨by simpa [InPlace, hne.symm] using hj, ?_⟩
    cases ok with
    | false => exact ⟨hs, rfl⟩
    | true => exact ⟨by simp [apply, hne, hs], Function.update_comm hne _ _ _⟩
  | executed j w' c =>
    have hj : s j = some w' := hx
    have hne := ne_of_live hs hj
    exact ⟨by simpa [InPlace, hne.symm] using hj, hs, rfl⟩
  | _ => exact ⟨trivial, hs, rfl⟩

theorem mem_relist :
    i ∈ x.relist names l ↔
      x.launches i = true ∨ (i ∈ l ∧ ∀ j, x.halts j = true → names i ≠ names j) := by
  rcases effect_cases x with ⟨j, w, rfl⟩ | ⟨how, j, w, rfl⟩ | ⟨hl, hh, -, hr⟩
  · simp only [relist, launches_iff, launchOf?, halts, List.mem_append, List.mem_singleton,
      Option.some.injEq]
    constructor
    · rintro (h | rfl)
      · exact .inr ⟨h, fun _ h => nomatch h⟩
      · exact .inl rfl
    · rintro (rfl | ⟨h, -⟩)
      · exact .inr rfl
      · exact .inl h
  · simp [relist, launches, launchOf?, halts]
  · simp [hr, hh, launches_iff, hl]

end Happening

namespace History

def live (s : Live κ) (h : List (Happening κ)) : Live κ := h.foldl (fun s x => x.apply s) s

def Orderly : Live κ → List (Happening κ) → Prop
  | _, [] => True
  | s, x :: h => x.InPlace s ∧ Orderly (x.apply s) h

/-- The runnables that were started and not taken off again, in the order of their starts. -/
def listed (names : Nat → String) (l : List Nat) (h : List (Happening κ)) : List Nat :=
  h.foldl (fun l x => x.relist names l) l

def launchedIn (h : List (Happening κ)) : List Nat := h.filterMap Happening.launchOf?

def Within (n : Nat) (h : List (Happening κ)) : Prop :=
  ∀ x ∈ h, ∀ i, x.runnable? = some i → i < n

def Launchless (h : List (Happening κ)) : Prop := ∀ x ∈ h, x.isLaunch = false

variable {s : Live κ} {g h : List (Happening κ)} {x : Happening κ} {i : Nat}

@[simp] theorem live_nil : live s [] = s := rfl

@[simp] theorem live_cons : live s (x :: h) = live (x.apply s) h := rfl

@[simp] theorem live_append : live s (g ++ h) = live (live s g) h := by simp [live]

@[simp] theorem listed_nil {names : Nat → String} {l : List Nat} :
    listed (κ := κ) names l [] = l := rfl

@[simp] theorem listed_cons {names : Nat → String} {l : List Nat} :
    listed names l (x :: h) = listed names (x.relist names l) h := rfl

@[simp] theorem listed_append {names : Nat → String} {l : List Nat} :
    listed names l (g ++ h) = listed names (listed names l g) h := by simp [listed]

@[simp] theorem launchedIn_append :
    launchedIn (g ++ h) = launchedIn g ++ launchedIn h := by simp [launchedIn]

theorem orderly_append : Orderly s (g ++ h) ↔ Orderly s g ∧ Orderly (live s g) h := by
  induction g generalizing s with
  | nil => simp [Orderly]
  | cons x g ih => simp [Orderly, ih, and_assoc]

theorem orderly_concat : Orderly s (h ++ [x]) ↔ Orderly s h ∧ x.InPlace (live s h) := by
  simp [orderly_append, Orderly]

theorem countP_launches (i : Nat) (ho : Orderly s h) :
    h.countP (·.launches i) + (if (s i).isSome then 1 else 0) =
      h.countP (·.halts i) + (if (live s h i).isSome then 1 else 0) := by
  induction h generalizing s with
  | nil => rfl
  | cons x h ih =>
    obtain ⟨hx, ho⟩ := ho
    have hi := ih ho
    rw [List.countP_cons, List.countP_cons, live_cons]
    cases hl : x.launches i with
    | true =>
      obtain ⟨w, rfl⟩ := Happening.exists_of_launches hl
      have hs : s i = none := hx
      simp only [Happening.apply, Function.update_self] at hi ⊢
      simp only [hs, Happening.halts] at hi ⊢
      simp at hi ⊢
      omega
    | false =>
      cases hh : x.halts i with
      | true =>
        have hs : (s i).isSome := Happening.isSome_of_halts hx hh
        rw [Happening.apply_of_halts hh] at hi
        simp [hs] at hi ⊢
        omega
      | false =>
        rw [Happening.apply_eq_of_ne hl hh] at hi
        simpa using hi

def Since (i : Nat) (h post : List (Happening κ)) : Prop :=
  (∃ pre w, h = pre ++ .launched i (some w) :: post) ∧ ∀ x ∈ post, x.halts i = false

/-- Another runnable of its name was halted after it was launched. -/
def Overtaken (names : Nat → String) (i : Nat) (h : List (Happening κ)) : Prop :=
  ∃ post, Since i h post ∧ ∃ j, names j = names i ∧ ∃ x ∈ post, x.halts j = true

theorem since_concat {post : List (Happening κ)} :
    Since i (h ++ [x]) post ↔ (x.launches i = true ∧ post = []) ∨
      (x.halts i = false ∧ ∃ post', Since i h post' ∧ post = post' ++ [x]) := by
  constructor
  · rintro ⟨⟨pre, w, he⟩, hp⟩
    rcases List.eq_nil_or_concat post with rfl | ⟨post', y, rfl⟩
    · obtain ⟨-, hx⟩ := List.append_inj' he rfl
      left
      simp [List.cons.inj hx, Happening.launches, Happening.launchOf?]
    · right
      rw [List.concat_eq_append, ← List.cons_append, ← List.append_assoc] at he
      obtain ⟨hh, hx⟩ := List.append_inj' he rfl
      obtain rfl : x = y := (List.cons.inj hx).1
      simp only [List.concat_eq_append, List.mem_append, List.mem_singleton] at hp
      exact ⟨hp x (.inr rfl), post', ⟨⟨pre, w, hh⟩, fun z hz => hp z (.inl hz)⟩, by simp⟩
  · rintro (⟨hx, rfl⟩ | ⟨hx, post', ⟨⟨pre, w, rfl⟩, hp⟩, rfl⟩)
    · obtain ⟨w, rfl⟩ := Happening.exists_of_launches hx
      exact ⟨⟨h, w, rfl⟩, by simp⟩
    · refine ⟨⟨pre, w, by simp⟩, ?_⟩
      intro z hz
      rcases List.mem_append.mp hz with hz | hz
      · exact hp z hz
      · rwa [List.mem_singleton.mp hz]

theorem exists_since_iff (hs : s i = none) :
    (∃ post, Since i h post) ↔ (live s h i).isSome := by
  induction h using List.reverseRecOn with
  | nil => simp [Since, hs]
  | append_singleton h x ih =>
    simp only [since_concat, live_append, live_cons, live_nil]
    cases hl : x.launches i with
    | true =>
      obtain ⟨w, rfl⟩ := Happening.exists_of_launches hl
      simp [Happening.apply]
    | false =>
      cases hh : x.halts i with
      | true => simp [Happening.apply_of_halts hh]
      | false =>
        rw [Happening.apply_eq_of_ne hl hh, ← ih]
        simp

theorem live_eq_none_iff (hl : Launchless h) :
    live s h i = none ↔ s i = none ∨ ∃ x ∈ h, x.halts i = true := by
  induction h generalizing s with
  | nil => simp
  | cons x h ih =>
    have hx := Happening.launches_of_isLaunch (hl x List.mem_cons_self) i
    rw [live_cons, ih fun y hy => hl y (List.mem_cons_of_mem x hy)]
    cases hh : x.halts i with
    | true => simp [Happening.apply_of_halts hh, hh]
    | false => simp [Happening.apply_eq_of_ne hx hh, hh]

theorem exists_since_append (hl : Launchless h) :
    (∃ post, Since i (g ++ h) post) ↔
      (∃ post, Since i g post) ∧ ∀ x ∈ h, x.halts i = false := by
  induction h using List.reverseRecOn with
  | nil => simp
  | append_singleton h x ih =>
    have hx := Happening.launches_of_isLaunch (hl x (by simp)) i
    have ih := ih fun y hy => hl y (List.mem_append_left _ hy)
    rw [← List.append_assoc]
    simp only [since_concat, hx, Bool.false_eq_true, false_and, false_or, List.mem_append,
      List.mem_singleton, or_imp, forall_and, forall_eq]
    constructor
    · rintro ⟨_, hxi, post, hp, rfl⟩
      obtain ⟨hg, hh⟩ := ih.mp ⟨post, hp⟩
      exact ⟨hg, hh, hxi⟩
    · rintro ⟨hg, hh, hxi⟩
      obtain ⟨post, hp⟩ := ih.mpr ⟨hg, hh⟩
      exact ⟨post ++ [x], hxi, post, hp, rfl⟩

theorem live_eq_or_none (hl : Launchless h) (i : Nat) :
    live s h i = s i ∨ live s h i = none := by
  induction h generalizing s with
  | nil => exact .inl rfl
  | cons x h ih =>
    have hx := Happening.launches_of_isLaunch (hl x List.mem_cons_self) i
    have hrest := ih (s := x.apply s) fun y hy => hl y (List.mem_cons_of_mem x hy)
    rw [live_cons]
    cases hh : x.halts i with
    | true =>
      rw [Happening.apply_of_halts hh] at hrest
      exact .inr (hrest.elim id id)
    | false => rwa [Happening.apply_eq_of_ne hx hh] at hrest

theorem unasked_of_idle (ho : Orderly s h) (hl : Launchless h) (hs : s i = none) :
    ∀ x ∈ h, x.runnable? ≠ some i := by
  induction h generalizing s with
  | nil => simp
  | cons x h ih =>
    obtain ⟨hx, ho⟩ := ho
    have hlx : Launchless [x] := by simpa [Launchless] using hl x List.mem_cons_self
    have hsx : x.apply s i = none := (live_eq_or_none hlx i).elim (·.trans hs) id
    intro y hy
    rcases List.mem_cons.mp hy with rfl | hy
    · exact hx.runnable?_ne (hl y List.mem_cons_self) hs
    · exact ih ho (fun z hz => hl z (List.mem_cons_of_mem x hz)) hsx y hy

theorem not_halts_of_idle (ho : Orderly s h) (hl : Launchless h) (hs : s i = none) :
    ∀ x ∈ h, x.halts i = false := by
  intro x hx
  cases hh : x.halts i with
  | false => rfl
  | true =>
    obtain ⟨how, w, rfl⟩ := Happening.exists_of_halts hh
    exact absurd rfl (unasked_of_idle ho hl hs _ hx)

variable {names : Nat → String}

theorem isSome_of_mem_listed (hi : i ∈ listed names [] h) : (live s h i).isSome := by
  induction h using List.reverseRecOn with
  | nil => cases hi
  | append_singleton h x ih =>
    rw [listed_append, listed_cons, listed_nil, Happening.mem_relist] at hi
    rw [live_append, live_cons, live_nil]
    rcases hi with hl | ⟨hi, hx⟩
    · obtain ⟨w, rfl⟩ := Happening.exists_of_launches hl
      simp [Happening.apply]
    · cases hl : x.launches i with
      | true =>
        obtain ⟨w, rfl⟩ := Happening.exists_of_launches hl
        simp [Happening.apply]
      | false =>
        have hh : x.halts i = false := by
          cases hh : x.halts i with
          | true => exact absurd rfl (hx i hh)
          | false => rfl
        rw [Happening.apply_eq_of_ne hl hh]
        exact ih hi

theorem nodup_listed (ho : Orderly s h) : (listed names [] h).Nodup := by
  induction h using List.reverseRecOn with
  | nil => exact List.nodup_nil
  | append_singleton h x ih =>
    obtain ⟨hg, hx⟩ := orderly_concat.mp ho
    have hn := ih hg
    rw [listed_append, listed_cons, listed_nil]
    rcases x.effect_cases with ⟨i, w, rfl⟩ | ⟨how, i, w, rfl⟩ | ⟨-, -, -, hr⟩
    · have hi : i ∉ listed names [] h := by
        intro hi
        have hs := isSome_of_mem_listed (s := s) hi
        rw [show live s h i = none from hx] at hs
        cases hs
      exact hn.append (List.nodup_singleton i) (by simpa using hi)
    · exact hn.filter _
    · rwa [hr]

theorem overtaken_concat (hl : x.launches i = false) (hh : x.halts i = false) :
    Overtaken names i (h ++ [x]) ↔ (∃ post, Since i h post) ∧
      (Overtaken names i h ∨ ∃ j, names j = names i ∧ x.halts j = true) := by
  simp only [Overtaken, since_concat, hl, hh, Bool.false_eq_true, false_and, false_or, true_and]
  constructor
  · rintro ⟨_, ⟨post, hp, rfl⟩, j, hj, y, hy, hyj⟩
    refine ⟨⟨post, hp⟩, ?_⟩
    rcases List.mem_append.mp hy with hy | hy
    · exact .inl ⟨post, hp, j, hj, y, hy, hyj⟩
    · rw [List.mem_singleton.mp hy] at hyj
      exact .inr ⟨j, hj, hyj⟩
  · rintro ⟨⟨post, hp⟩, ⟨post', hp', j, hj, y, hy, hyj⟩ | ⟨j, hj, hxj⟩⟩
    · exact ⟨_, ⟨post', hp', rfl⟩, j, hj, y, List.mem_append_left _ hy, hyj⟩
    · exact ⟨_, ⟨post, hp, rfl⟩, j, hj, x, by simp, hxj⟩

theorem overtaken_iff (hs : s i = none) (ho : Orderly s h) :
    Overtaken names i h ↔ (live s h i).isSome ∧ i ∉ listed names [] h := by
  induction h using List.reverseRecOn with
  | nil => simp [Overtaken, Since, hs]
  | append_singleton h x ih =>
    obtain ⟨ho, hx⟩ := orderly_concat.mp ho
    have ih := ih ho
    have hsince := exists_since_iff (h := h) hs
    rw [live_append, live_cons, live_nil, listed_append, listed_cons, listed_nil,
      Happening.mem_relist]
    cases hl : x.launches i with
    | true =>
      -- a launch is the last happening, so that nothing can have come after it
      obtain ⟨w, rfl⟩ := Happening.exists_of_launches hl
      have hn : ¬∃ post, Since i h post := by
        rw [hsince, show live s h i = none from hx]
        simp
      simp only [not_exists] at hn
      simp [Overtaken, since_concat, hl, hn]
    | false =>
      cases hh : x.halts i with
      | true => simp [Overtaken, since_concat, hl, hh, Happening.apply_of_halts hh]
      | false =>
        rw [Happening.apply_eq_of_ne hl hh, overtaken_concat hl hh, hsince, ih]
        have hnames : (∃ j, names j = names i ∧ x.halts j = true) ↔
            ¬∀ j, x.halts j = true → names i ≠ names j := by
          push Not
          exact exists_congr fun j => and_comm.trans (and_congr_right fun _ => eq_comm)
        rw [hnames]
        simp only [Bool.false_eq_true, false_or]
        tauto

theorem dedup_concat (l : List Nat) (a : Nat) :
    (l ++ [a]).dedup = l.dedup.filter (· ≠ a) ++ [a] := by
  induction l with
  | nil => simp
  | cons b l ih =>
    rw [List.cons_append]
    by_cases hb : b ∈ l
    · rw [List.dedup_cons_of_mem hb, List.dedup_cons_of_mem (List.mem_append_left _ hb), ih]
    · rw [List.dedup_cons_of_notMem hb]
      by_cases hba : b = a
      · subst hba
        rw [List.dedup_cons_of_mem (by simp), ih]
        simp
      · rw [List.dedup_cons_of_notMem (by simp [hb, hba]), ih]
        simp [hba]

theorem mem_launchedIn : i ∈ launchedIn h ↔ ∃ x ∈ h, x.launches i = true := by
  simp only [launchedIn, List.mem_filterMap, Happening.launches_iff]

theorem within_append {n : Nat} : Within n (g ++ h) ↔ Within n g ∧ Within n h := by
  simp [Within, or_imp, forall_and]

theorem Within.mono {m n : Nat} (hw : Within m h) (hmn : m ≤ n) : Within n h :=
  fun x hx i hi => Nat.lt_of_lt_of_le (hw x hx i hi) hmn

theorem launchless_append : Launchless (g ++ h) ↔ Launchless g ∧ Launchless h := by
  simp [Launchless, or_imp, forall_and]

theorem launchedIn_of_launchless (hl : Launchless h) : launchedIn h = [] :=
  List.filterMap_eq_nil_iff.mpr fun x hx => Happening.launchOf?_of_isLaunch (hl x hx)

theorem live_update {w : Workload κ} (ho : Orderly s h) (hl : Launchless h)
    (hs : s i = none) :
    Orderly (Function.update s i (some w)) h ∧
      live (Function.update s i (some w)) h = Function.update (live s h) i (some w) := by
  induction h generalizing s with
  | nil => exact ⟨trivial, rfl⟩
  | cons x h ih =>
    obtain ⟨hx, ho⟩ := ho
    have hxl : x.isLaunch = false := hl x List.mem_cons_self
    have hlh : Launchless h := fun y hy => hl y (List.mem_cons_of_mem x hy)
    obtain ⟨hxu, hn, happ⟩ := Happening.apply_update (w := w) hx hxl hs
    obtain ⟨hou, hlive⟩ := ih ho hlh hn
    rw [live_cons, live_cons, happ]
    exact ⟨⟨hxu, happ ▸ hou⟩, hlive⟩

theorem listed_congr {names' : Nat → String} {l : List Nat} {n : Nat} (hw : Within n h)
    (hl : ∀ i ∈ l, i < n) (hn : ∀ i < n, names' i = names i) :
    listed names' l h = listed names l h := by
  induction h generalizing l with
  | nil => rfl
  | cons x h ih =>
    have hx : ∀ i, x.runnable? = some i → i < n := hw x List.mem_cons_self
    have heq : x.relist names' l = x.relist names l := by
      rcases x.effect_cases with ⟨i, w, rfl⟩ | ⟨how, i, w, rfl⟩ | ⟨-, -, -, hr⟩
      · rfl
      · refine List.filter_congr fun j hj => ?_
        rw [hn i (hx i rfl), hn j (hl j hj)]
      · rw [hr, hr]
    have hlt : ∀ i ∈ x.relist names l, i < n := by
      intro i hi
      rcases Happening.mem_relist.mp hi with hi | ⟨hi, -⟩
      · obtain ⟨w, rfl⟩ := Happening.exists_of_launches hi
        exact hx i rfl
      · exact hl i hi
    rw [listed_cons, listed_cons, heq]
    exact ih (fun y hy => hw y (List.mem_cons_of_mem x hy)) hlt

theorem filter_launched {k : Nat} {w : Workload κ} (hk : s k = none) (l : List Nat) :
    (l.filter (· ≠ k) ++ [k]).filter
        (fun i => ((Happening.launched k (some w)).apply s i).isSome) =
      (l.filter fun i => (s i).isSome) ++ [k] := by
  have happ : ∀ j, ((Happening.launched k (some w)).apply s j).isSome =
      (decide (j = k) || (s j).isSome) := by
    intro j
    by_cases hj : j = k
    · subst hj
      simp [Happening.apply]
    · simp [Happening.apply, hj]
  simp only [happ]
  rw [List.filter_append, List.filter_filter]
  congr 1
  · refine List.filter_congr fun j _ => ?_
    by_cases hj : j = k
    · subst hj
      simp [hk]
    · simp [hj]
  · simp

theorem filter_halted {how : Halt} {k : Nat} {w : Workload κ} {l : List Nat}
    (hl : ∀ j ∈ l, names j = names k → j = k) :
    l.filter (fun i => ((Happening.halted how k w true).apply s i).isSome) =
      (l.filter fun i => (s i).isSome).filter fun j => names j ≠ names k := by
  rw [List.filter_filter]
  refine List.filter_congr fun j hj => ?_
  by_cases hjk : j = k
  · subst hjk
    simp [Happening.apply]
  · have hne : names j ≠ names k := fun h => hjk (hl j hj h)
    simp [Happening.apply, hjk, hne]

/-- Where names tell runnables apart, the list has those with a live workload, by their most
recent launch. -/
theorem listed_eq_filter {n : Nat} (ho : Orderly s h) (hw : Within n h)
    (inj : ∀ i < n, ∀ j < n, names i = names j → i = j) :
    listed names [] h = (launchedIn h).dedup.filter fun i => (live s h i).isSome := by
  induction h using List.reverseRecOn with
  | nil => rfl
  | append_singleton h x ih =>
    obtain ⟨hg, hx⟩ := orderly_concat.mp ho
    obtain ⟨hwg, hwx⟩ := within_append.mp hw
    rw [listed_append, listed_cons, listed_nil, ih hg hwg]
    simp only [live_append, live_cons, live_nil, launchedIn_append]
    rcases x.effect_cases with ⟨k, w, rfl⟩ | ⟨how, k, w, rfl⟩ | ⟨hl, -, ha, hr⟩
    · have hd : (launchedIn h ++ launchedIn [Happening.launched k (some w)]).dedup =
          (launchedIn h).dedup.filter (· ≠ k) ++ [k] := dedup_concat _ k
      rw [hd, filter_launched hx]
      rfl
    · have hl : launchedIn [Happening.halted how k w true] = [] := rfl
      have hinj : ∀ j ∈ (launchedIn h).dedup, names j = names k → j = k := by
        intro j hj
        obtain ⟨y, hy, hyj⟩ := mem_launchedIn.mp (List.mem_dedup.mp hj)
        obtain ⟨v, rfl⟩ := Happening.exists_of_launches hyj
        exact inj j (hwg _ hy j rfl) k (hwx _ List.mem_cons_self k rfl)
      rw [hl, List.append_nil, filter_halted hinj]
      rfl
    · have hl : launchedIn [x] = [] := by simp [launchedIn, hl]
      rw [hl, List.append_nil, ha, hr]

end History

end Testbed
