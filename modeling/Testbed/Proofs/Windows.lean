import Testbed.Proofs.Retrying

/-!
The delays of a wait, told by their windows. A window starts at the shortest delay and its double,
and both of its ends are doubled, up to the longest delay, for the next one. Doubling never leaves
the range of spans before it is cut off. A delay that is drawn lies in its window, but it is drawn
as a 64-bit number: a window beyond those numbers has no point to draw.
-/
namespace Testbed

namespace Span

variable {a b : Span}

theorem eq_of_nanos (h : a.nanos = b.nanos) : a = b := by
  cases a
  cases b
  cases h
  rfl

theorem nanos_ofNanos {n : Nat} (h : n < limit) : (ofNanos n).nanos = n := by
  rw [ofNanos, dif_pos h]

theorem nanos_min (a b : Span) : (a.min b).nanos = Min.min a.nanos b.nanos := by
  rw [Span.min]
  split <;> omega

theorem nanos_doubled_min (a cap : Span) :
    (a.doubled.min cap).nanos = Min.min (2 * a.nanos) cap.nanos := by
  have hcap := cap.nanos_lt
  rw [nanos_min, doubled, ofNanos]
  split
  · rfl
  · have hlongest : longest.nanos = limit - 1 := rfl
    omega

end Span

namespace Wait

variable {p : Policy} {w : Wait} {draw n : Nat} {d : Span}

def mostDrawable : Nat := 2 ^ 64 - 1

theorem drawable_eq (s : Span) : drawable s = Min.min s.nanos mostDrawable := rfl

theorem delay?_of_point (h : w.high.nanos ≤ w.low.nanos) : w.delay? draw = some w.high := by
  rw [delay?, settled, if_pos (decide_eq_true h)]

variable (draw) in
theorem delay?_of_window (h : w.low.nanos < w.high.nanos) (hlow : w.low.nanos < mostDrawable) :
    ∃ d, w.delay? draw = some d ∧ w.low.nanos ≤ d.nanos ∧ d.nanos < w.high.nanos := by
  have hlimit := w.high.nanos_lt
  have hdraw : drawable w.low < drawable w.high := by
    rw [drawable_eq, drawable_eq]
    omega
  have hmod := Nat.mod_lt draw (Nat.sub_pos_of_lt hdraw)
  have hhigh : drawable w.high ≤ w.high.nanos := Nat.min_le_left _ _
  have heq : drawable w.low = w.low.nanos := Nat.min_eq_left hlow.le
  refine ⟨_, by rw [delay?, settled, if_neg (by simpa using h), if_pos hdraw], ?_⟩
  rw [Span.nanos_ofNanos (by omega)]
  omega

theorem delay?_eq_none_iff :
    w.delay? draw = none ↔ w.low.nanos < w.high.nanos ∧ mostDrawable ≤ w.low.nanos := by
  rcases Nat.lt_or_ge w.low.nanos w.high.nanos with hlt | hle
  · rcases Nat.lt_or_ge w.low.nanos mostDrawable with hlow | hlow
    · obtain ⟨d, hd, -⟩ := delay?_of_window draw hlt hlow
      simp only [hd, reduceCtorEq, false_iff, not_and]
      omega
    · have hdraw : ¬drawable w.low < drawable w.high := by
        rw [drawable_eq, drawable_eq]
        omega
      rw [delay?, settled, if_neg (by simpa using hlt), if_neg hdraw]
      simp [hlt, hlow]
  · rw [delay?_of_point hle]
    simp only [reduceCtorEq, false_iff, not_and]
    omega

def advanced (p : Policy) : Nat → Wait
  | 0 => start p
  | n + 1 => (advanced p n).widened

end Wait

namespace Policy

variable {p : Policy} {draws : Nat → Nat} {n : Nat} {d : Span}

/-- What a call for a delay comes to after `n` others; `none` if its window has no point to draw. -/
def delay? (p : Policy) (draws : Nat → Nat) (n : Nat) : Option Span :=
  (Wait.advanced p n).delay? (draws n)

def edge (p : Policy) (n : Nat) : Nat := Min.min (2 ^ n * p.min.nanos) p.max.nanos

def Drawable (p : Policy) : Prop :=
  ∀ n, 2 ^ n * p.min.nanos < p.max.nanos → 2 ^ n * p.min.nanos < Wait.mostDrawable

theorem edge_succ (p : Policy) (n : Nat) :
    p.edge (n + 1) = Min.min (2 * p.edge n) p.max.nanos := by
  rw [edge, edge, Nat.pow_succ', Nat.mul_assoc]
  omega

theorem edge_le (p : Policy) (n : Nat) : p.edge n ≤ p.max.nanos := Nat.min_le_right _ _

theorem edge_le_edge_succ (p : Policy) (n : Nat) : p.edge n ≤ p.edge (n + 1) := by
  have hmax := p.edge_le n
  rw [edge_succ]
  omega

theorem le_edge (hp : p.min.nanos ≤ p.max.nanos) (n : Nat) : p.min.nanos ≤ p.edge n :=
  Nat.le_min.mpr ⟨Nat.le_mul_of_pos_left _ (Nat.two_pow_pos n), hp⟩

theorem edge_lt_iff (p : Policy) (n : Nat) :
    p.edge n < p.edge (n + 1) ↔ 0 < p.min.nanos ∧ 2 ^ n * p.min.nanos < p.max.nanos := by
  have hzero : 2 ^ n * p.min.nanos = 0 ↔ p.min.nanos = 0 := by simp
  rw [edge_succ, edge]
  omega

theorem high_advanced (p : Policy) (n : Nat) :
    (Wait.advanced p n).policy = p ∧ (Wait.advanced p n).high.nanos = p.edge (n + 1) := by
  induction n with
  | zero =>
    refine ⟨rfl, ?_⟩
    rw [Wait.advanced, Wait.start, Span.nanos_doubled_min, edge, Nat.zero_add, Nat.pow_one]
  | succ n ih =>
    refine ⟨ih.1, ?_⟩
    rw [Wait.advanced, Wait.widened, Span.nanos_doubled_min, ih.1, ih.2, ← edge_succ]

theorem low_advanced (hp : p.min.nanos ≤ p.max.nanos) (n : Nat) :
    (Wait.advanced p n).low.nanos = p.edge n := by
  induction n with
  | zero => rw [Wait.advanced, Wait.start, edge, Nat.pow_zero, Nat.one_mul, Nat.min_eq_left hp]
  | succ n ih =>
    rw [Wait.advanced, Wait.widened, Span.nanos_doubled_min, (high_advanced p n).1, ih, ← edge_succ]

theorem delay?_eq_none_iff (hp : p.min.nanos ≤ p.max.nanos) :
    p.delay? draws n = none ↔
      Wait.mostDrawable ≤ 2 ^ n * p.min.nanos ∧ 2 ^ n * p.min.nanos < p.max.nanos := by
  have hmost : 0 < Wait.mostDrawable := by decide
  have hzero : 2 ^ n * p.min.nanos = 0 ↔ p.min.nanos = 0 := by simp
  rw [delay?, Wait.delay?_eq_none_iff, low_advanced hp, (high_advanced p n).2, edge_lt_iff, edge]
  omega

theorem delay?_between (hp : p.min.nanos ≤ p.max.nanos) (hd : p.delay? draws n = some d) :
    p.edge n ≤ d.nanos ∧ d.nanos ≤ p.edge (n + 1) := by
  have hlow := low_advanced hp n
  have hhigh := (high_advanced p n).2
  rcases Nat.lt_or_ge (p.edge n) (p.edge (n + 1)) with hlt | hle
  · have hdrawn : (Wait.advanced p n).low.nanos < Wait.mostDrawable := by
      by_contra hnot
      have hnone : p.delay? draws n = none :=
        Wait.delay?_eq_none_iff.mpr ⟨by rwa [hlow, hhigh], Nat.not_lt.mp hnot⟩
      rw [hnone] at hd
      cases hd
    obtain ⟨d', hd', hbetween⟩ := Wait.delay?_of_window (draws n)
      (by rwa [hlow, hhigh]) hdrawn
    obtain rfl : d' = d := Option.some.inj (hd'.symm.trans hd)
    omega
  · have hpoint : p.delay? draws n = some (Wait.advanced p n).high :=
      Wait.delay?_of_point (by rwa [hlow, hhigh])
    obtain rfl : (Wait.advanced p n).high = d := Option.some.inj (hpoint.symm.trans hd)
    exact ⟨hhigh ▸ p.edge_le_edge_succ n, hhigh.le⟩

theorem delay?_within (hp : p.min.nanos ≤ p.max.nanos) (hd : p.delay? draws n = some d) :
    p.min.nanos ≤ d.nanos ∧ d.nanos ≤ p.max.nanos :=
  ⟨(le_edge hp n).trans (delay?_between hp hd).1, (delay?_between hp hd).2.trans (edge_le p _)⟩

theorem drawable_of_le (h : p.max.nanos ≤ Wait.mostDrawable) : p.Drawable :=
  fun _ hn => Nat.lt_of_lt_of_le hn h

theorem Drawable.delay? (h : p.Drawable) (hp : p.min.nanos ≤ p.max.nanos) (draws : Nat → Nat)
    (n : Nat) : ∃ d, p.delay? draws n = some d := by
  rw [← Option.isSome_iff_exists, Option.isSome_iff_ne_none, ne_eq, delay?_eq_none_iff hp]
  rintro ⟨hmost, hn⟩
  exact Nat.not_lt.mpr hmost (h n hn)

theorem delay?_of_grown (hp : p.min.nanos ≤ p.max.nanos) (draws : Nat → Nat)
    (h : p.max.nanos ≤ 2 ^ n * p.min.nanos) : p.delay? draws n = some p.max := by
  have hedge : p.edge n = p.max.nanos := Nat.min_eq_right h
  have hhigh : (Wait.advanced p n).high.nanos = p.max.nanos := by
    have hgrown := p.edge_le_edge_succ n
    have hmax := p.edge_le (n + 1)
    rw [(high_advanced p n).2]
    omega
  rw [delay?, Wait.delay?_of_point (by rw [low_advanced hp, hhigh, hedge]),
    Span.eq_of_nanos hhigh]

theorem max_le_of_pos (h : 0 < p.min.nanos) (hn : 94 ≤ n) :
    p.max.nanos ≤ 2 ^ n * p.min.nanos :=
  calc p.max.nanos ≤ Span.limit := p.max.nanos_lt.le
    _ ≤ 2 ^ 94 := by decide
    _ ≤ 2 ^ n := Nat.pow_le_pow_right Nat.two_pos hn
    _ ≤ 2 ^ n * p.min.nanos := Nat.le_mul_of_pos_right _ h

theorem delay?_of_zero (h : p.min.nanos = 0) (draws : Nat → Nat) (n : Nat) :
    p.delay? draws n = some .zero := by
  have hedge : ∀ n, p.edge n = 0 := fun n => by
    rw [edge, h, Nat.mul_zero, Nat.zero_min]
  have hp : p.min.nanos ≤ p.max.nanos := by omega
  have hhigh : (Wait.advanced p n).high.nanos = 0 := by rw [(high_advanced p n).2, hedge]
  rw [delay?, Wait.delay?_of_point (by rw [low_advanced hp, hhigh]; exact Nat.zero_le _)]
  exact congrArg some (Span.eq_of_nanos hhigh)

end Policy

variable {p : Policy}

/-- A delay that a policy comes to lies between its shortest and its longest delay. All calls come
to one exactly if no window but a point begins beyond what can be drawn, so always if the longest
delay can be drawn. -/
theorem delays_within_bounds_iff (hp : p.check = .ok ()) :
    ((∀ draws n, ∃ d, p.delay? draws n = some d ∧
      p.min.nanos ≤ d.nanos ∧ d.nanos ≤ p.max.nanos) ↔ p.Drawable) ∧
    (∀ draws n d, p.delay? draws n = some d → p.min.nanos ≤ d.nanos ∧ d.nanos ≤ p.max.nanos) ∧
    (∀ draws n, p.delay? draws n = none ↔
      Wait.mostDrawable ≤ 2 ^ n * p.min.nanos ∧ 2 ^ n * p.min.nanos < p.max.nanos) ∧
    (p.max.nanos ≤ Wait.mostDrawable → p.Drawable) := by
  obtain ⟨-, hle⟩ := p.check_eq_ok_iff.mp hp
  refine ⟨⟨fun h n hn => ?_, fun h draws n => ?_⟩, fun _ _ _ => Policy.delay?_within hle,
    fun _ _ => Policy.delay?_eq_none_iff hle, Policy.drawable_of_le⟩
  · by_contra hmost
    obtain ⟨d, hd, -⟩ := h (fun _ => 0) n
    rw [(Policy.delay?_eq_none_iff hle).mpr ⟨Nat.not_lt.mp hmost, hn⟩] at hd
    cases hd
  · obtain ⟨d, hd⟩ := h.delay? hle draws n
    exact ⟨d, hd, Policy.delay?_within hle hd⟩

def wide : Policy := ⟨.ofNanos (10 ^ 10 * 10 ^ 9), .ofNanos (9 * 10 ^ 10 * 10 ^ 9), 2⟩

theorem delays_within_bounds_iff_wide :
    let brief : Policy := ⟨.ofMillis 10, .ofMillis 80, 10⟩
    brief.check = .ok () ∧
    (∀ draws n, ∃ d, brief.delay? draws n = some d ∧
      brief.min.nanos ≤ d.nanos ∧ d.nanos ≤ brief.max.nanos) ∧
    wide.check = .ok () ∧ ¬wide.Drawable ∧ ∀ draws, wide.delay? draws 1 = none := by
  intro brief
  have hbrief : brief.check = .ok () := brief.check_eq_ok_iff.mpr (by decide)
  have hwide : wide.check = .ok () := wide.check_eq_ok_iff.mpr (by decide)
  obtain ⟨hiff, -, -, hdrawable⟩ := delays_within_bounds_iff hbrief
  obtain ⟨-, -, hnone, -⟩ := delays_within_bounds_iff hwide
  exact ⟨hbrief, hiff.mpr (hdrawable (by decide)), hwide, fun h => absurd (h 1) (by decide),
    fun draws => (hnone draws 1).mpr (by decide)⟩

theorem delay_beyond_draws : ¬∀ p : Policy, p.check = .ok () → ∀ draws n,
    ∃ d, p.delay? draws n = some d ∧ p.min.nanos ≤ d.nanos ∧ d.nanos ≤ p.max.nanos := by
  intro hall
  obtain ⟨d, hd, -⟩ := hall wide (wide.check_eq_ok_iff.mpr (by decide)) (fun _ => 0) 1
  rw [(Policy.delay?_eq_none_iff (by decide)).mpr (by decide)] at hd
  cases hd

/-- Delays grow to the longest one exactly if the shortest is any delay at all, or the longest is
none. After 94 calls all of them have, and without a shortest delay none ever does. -/
theorem delays_reach_longest_iff (hp : p.check = .ok ()) :
    ((∃ K, ∀ draws n, K ≤ n → p.delay? draws n = some p.max) ↔
      0 < p.min.nanos ∨ p.max.nanos = 0) ∧
    (∀ draws n, p.max.nanos ≤ 2 ^ n * p.min.nanos → p.delay? draws n = some p.max) ∧
    (0 < p.min.nanos → ∀ draws n, 94 ≤ n → p.delay? draws n = some p.max) ∧
    (p.min.nanos = 0 → ∀ draws n, p.delay? draws n = some .zero) := by
  obtain ⟨-, hle⟩ := p.check_eq_ok_iff.mp hp
  have hgrown : 0 < p.min.nanos → ∀ draws n, 94 ≤ n → p.delay? draws n = some p.max :=
    fun h draws _ hn => Policy.delay?_of_grown hle draws (Policy.max_le_of_pos h hn)
  refine ⟨⟨fun ⟨K, hK⟩ => ?_, ?_⟩, fun draws _ => Policy.delay?_of_grown hle draws, hgrown,
    Policy.delay?_of_zero⟩
  · by_contra hnone
    obtain ⟨hmin, hmax⟩ := not_or.mp hnone
    have hlast := hK (fun _ => 0) K le_rfl
    rw [Policy.delay?_of_zero (Nat.eq_zero_of_not_pos hmin)] at hlast
    exact hmax (congrArg Span.nanos (Option.some.inj hlast)).symm
  · rintro (hmin | hmax)
    · exact ⟨94, hgrown hmin⟩
    · exact ⟨0, fun draws n _ => Policy.delay?_of_grown hle draws (hmax ▸ Nat.zero_le _)⟩

def prompt : Policy := ⟨.zero, .ofMillis 5, 3⟩

theorem delays_reach_longest_iff_prompt :
    let extreme : Policy := ⟨.ofNanos 1, .longest, 3⟩
    extreme.check = .ok () ∧ (∀ draws, extreme.delay? draws 94 = some .longest) ∧
    prompt.check = .ok () ∧ ∀ draws n, prompt.delay? draws n = some .zero := by
  intro extreme
  have hextreme : extreme.check = .ok () := extreme.check_eq_ok_iff.mpr (by decide)
  have hprompt : prompt.check = .ok () := prompt.check_eq_ok_iff.mpr (by decide)
  obtain ⟨-, -, hgrown, -⟩ := delays_reach_longest_iff hextreme
  obtain ⟨-, -, -, hzero⟩ := delays_reach_longest_iff hprompt
  exact ⟨hextreme, fun draws => hgrown (by decide) draws 94 le_rfl, hprompt, hzero rfl⟩

theorem delays_stay_zero : ¬∀ p : Policy, p.check = .ok () →
    ∃ K, ∀ draws n, K ≤ n → p.delay? draws n = some p.max := by
  intro hall
  obtain ⟨K, hK⟩ := hall prompt (prompt.check_eq_ok_iff.mpr (by decide))
  have hlast := hK (fun _ => 0) K le_rfl
  rw [Policy.delay?_of_zero rfl] at hlast
  exact absurd (Option.some.inj hlast) (by decide)

end Testbed
