import Testbed.Proofs.Windows

/-!
The windows that delays are drawn from, whatever was drawn before. A delay is asked for by itself or
slept for between two attempts; either way it leaves the wait with the next window. If the longest
delay can be drawn, every delay of a window can be, and no other is. Then doubling never leaves the
range of spans either.
-/
namespace Testbed

/-- The delays that a wait has come to so far, asked for or slept for, and the wait as it is then.
Attempts are counted by a number of 32 bits. -/
inductive Policy.Drawn (p : Policy) : List Span → Wait → Prop
  | start : p.Drawn [] (Wait.start p)
  | asked {ds : List Span} {w : Wait} {draw : Nat} {d : Span} (h : p.Drawn ds w)
      (hd : w.delay? draw = some d) : p.Drawn (ds ++ [d]) w.widened
  | slept {ds : List Span} {w w' : Wait} {draw : Nat} (h : p.Drawn ds w)
      (htries : w.tries + 1 < 2 ^ 32) (hw : w.next? draw = some w') :
      p.Drawn (ds ++ (w.nap? draw).toList) w'

namespace Wait

variable {w : Wait} {d : Span}

def Offers (w : Wait) (d : Span) : Prop :=
  w.low.nanos = d.nanos ∧ d.nanos = w.high.nanos ∨
    w.low.nanos ≤ d.nanos ∧ d.nanos < w.high.nanos

theorem exists_draw (hlow : w.low.nanos ≤ d.nanos) (hhigh : d.nanos < w.high.nanos)
    (hmost : w.high.nanos ≤ mostDrawable) : ∃ draw, w.delay? draw = some d := by
  have hl : drawable w.low = w.low.nanos := by
    rw [drawable_eq]
    omega
  have hh : drawable w.high = w.high.nanos := by
    rw [drawable_eq]
    omega
  refine ⟨d.nanos - w.low.nanos, ?_⟩
  rw [delay?, settled, if_neg (by simp; omega), hl, hh, if_pos (by omega),
    Nat.mod_eq_of_lt (by omega), Nat.add_sub_cancel' hlow]
  exact congrArg some (Span.eq_of_nanos (Span.nanos_ofNanos d.nanos_lt))

theorem delay?_eq_some_iff (hends : w.low.nanos ≤ w.high.nanos)
    (hmost : w.high.nanos ≤ mostDrawable) : (∃ draw, w.delay? draw = some d) ↔ w.Offers d := by
  rcases Nat.lt_or_ge w.low.nanos w.high.nanos with hlt | hle
  · constructor
    · rintro ⟨draw, hd⟩
      obtain ⟨d', hd', hbetween⟩ := delay?_of_window draw hlt (Nat.lt_of_lt_of_le hlt hmost)
      cases hd.symm.trans hd'
      exact .inr hbetween
    · rintro (⟨hlow, hhigh⟩ | ⟨hlow, hhigh⟩)
      · omega
      · exact exists_draw hlow hhigh hmost
  · constructor
    · rintro ⟨draw, hd⟩
      rw [delay?_of_point hle] at hd
      cases hd
      exact .inl ⟨Nat.le_antisymm hends hle, rfl⟩
    · rintro (⟨-, hhigh⟩ | ⟨hlow, hhigh⟩)
      · exact ⟨0, by rw [delay?_of_point hle, Span.eq_of_nanos hhigh.symm]⟩
      · omega

end Wait

namespace Policy

variable {p : Policy} {ds : List Span} {w : Wait}

/-- Which delays were drawn, and how many attempts were counted, leaves no trace in the window. -/
theorem Drawn.eq_advanced (h : p.Drawn ds w) :
    w = { Wait.advanced p ds.length with tries := w.tries } := by
  induction h with
  | start => rfl
  | asked _ _ ih =>
    rw [List.length_append, List.length_singleton, Wait.advanced, ih]
    rfl
  | @slept ds w w' draw _ _ hw ih =>
    rw [Wait.next?_eq] at hw
    unfold Wait.nap?
    split at hw
    · next hon =>
      obtain ⟨d, hd, rfl⟩ := Option.map_eq_some_iff.mp hw
      rw [if_pos hon, hd, Option.toList_some, List.length_append, List.length_singleton,
        Wait.advanced, ih]
      rfl
    · next hoff =>
      cases hw
      rw [if_neg hoff, Option.toList_none, List.append_nil, ih]
      rfl

structure WindowAt (p : Policy) (n : Nat) (w : Wait) : Prop where
  low : w.low.nanos = Min.min (2 ^ n * p.min.nanos) p.max.nanos
  high : w.high.nanos = Min.min (2 ^ (n + 1) * p.min.nanos) p.max.nanos
  ordered : w.low.nanos ≤ w.high.nanos
  offers : ∀ d, (∃ draw, w.delay? draw = some d) ↔ w.Offers d
  drawn : ∀ draw, (w.delay? draw).isSome = true
  doubled : w.low.doubled.nanos = 2 * w.low.nanos ∧ w.high.doubled.nanos = 2 * w.high.nanos

theorem Drawn.windowAt (hp : p.min.nanos ≤ p.max.nanos) (hmax : p.max.nanos ≤ Wait.mostDrawable)
    (h : p.Drawn ds w) : p.WindowAt ds.length w := by
  have heq := h.eq_advanced
  have hlow : w.low.nanos = p.edge ds.length := by rw [heq]; exact low_advanced hp ds.length
  have hhigh : w.high.nanos = p.edge (ds.length + 1) := by
    rw [heq]
    exact (high_advanced p ds.length).2
  have hends : w.low.nanos ≤ w.high.nanos := by
    rw [hlow, hhigh]
    exact p.edge_le_edge_succ _
  have hmost : w.high.nanos ≤ Wait.mostDrawable := hhigh ▸ (p.edge_le _).trans hmax
  have hdoubled : ∀ a : Span, a.nanos ≤ Wait.mostDrawable → a.doubled.nanos = 2 * a.nanos := by
    intro a ha
    have hroom : 2 * Wait.mostDrawable < Span.limit := by decide
    exact Span.nanos_ofNanos (by omega)
  refine ⟨hlow, hhigh, hends, fun d => Wait.delay?_eq_some_iff hends hmost, fun draw => ?_,
    hdoubled _ (hends.trans hmost), hdoubled _ hmost⟩
  rw [Option.isSome_iff_ne_none, ne_eq, Wait.delay?_eq_none_iff]
  omega

theorem edge_mono (p : Policy) : Monotone p.edge := monotone_nat_of_le_succ p.edge_le_edge_succ

theorem exists_drawn (hp : p.min.nanos ≤ p.max.nanos) (hmax : p.max.nanos ≤ Wait.mostDrawable)
    (n : Nat) : ∃ ds w, p.Drawn ds w ∧ ds.length = n := by
  induction n with
  | zero => exact ⟨[], _, .start, rfl⟩
  | succ n ih =>
    obtain ⟨ds, w, h, hn⟩ := ih
    obtain ⟨d, hd⟩ := Option.isSome_iff_exists.mp ((h.windowAt hp hmax).drawn 0)
    exact ⟨ds ++ [d], w.widened, .asked h hd, by rw [List.length_append, hn]; rfl⟩

end Policy

/-- If the longest delay can be drawn, delays can be had without end, and what they were decides
nothing: after as many of them the window is the same, and a later window ends no earlier on either
side. -/
theorem window_whatever_drawn {p : Policy} (hp : p.min.nanos ≤ p.max.nanos)
    (hmax : p.max.nanos ≤ Wait.mostDrawable) :
    (∀ n, ∃ ds w, p.Drawn ds w ∧ ds.length = n) ∧
    (∀ ds w, p.Drawn ds w → p.WindowAt ds.length w) ∧
    ∀ ds w ds' w', p.Drawn ds w → p.Drawn ds' w' → ds.length ≤ ds'.length →
      w.low.nanos ≤ w'.low.nanos ∧ w.high.nanos ≤ w'.high.nanos := by
  refine ⟨Policy.exists_drawn hp hmax, fun _ _ h => h.windowAt hp hmax,
    fun ds w ds' w' h h' hn => ?_⟩
  have hw := h.windowAt hp hmax
  have hw' := h'.windowAt hp hmax
  rw [hw.low, hw'.low, hw.high, hw'.high]
  exact ⟨p.edge_mono hn, p.edge_mono (Nat.add_le_add_right hn 1)⟩

theorem window_whatever_drawn_longest :
    let p : Policy := ⟨.ofNanos 1, .ofNanos (2 ^ 64 - 1), 3⟩
    p.min.nanos ≤ p.max.nanos ∧ p.max.nanos ≤ Wait.mostDrawable ∧
    (∃ ds w, p.Drawn ds w ∧ ds.length = 63 ∧ w.low.nanos = 2 ^ 63 ∧ w.high.nanos = 2 ^ 64 - 1) ∧
    ∃ ds w, p.Drawn ds w ∧ ds.length = 64 ∧ ∀ draw, w.delay? draw = some p.max := by
  intro p
  have hp : p.min.nanos ≤ p.max.nanos := by decide
  have hmax : p.max.nanos ≤ Wait.mostDrawable := by decide
  obtain ⟨hall, hwindow, -⟩ := window_whatever_drawn hp hmax
  refine ⟨hp, hmax, ?_, ?_⟩
  · obtain ⟨ds, w, h, hn⟩ := hall 63
    have hw := hwindow ds w h
    rw [hn] at hw
    exact ⟨ds, w, h, hn, hw.low.trans (by decide), hw.high.trans (by decide)⟩
  · obtain ⟨ds, w, h, hn⟩ := hall 64
    have hw := hwindow ds w h
    rw [hn] at hw
    have hlow : w.low.nanos = p.max.nanos := hw.low.trans (by decide)
    have hhigh : w.high.nanos = p.max.nanos := hw.high.trans (by decide)
    refine ⟨ds, w, h, hn, fun draw => ?_⟩
    rw [Wait.delay?_of_point (hhigh.trans hlow.symm).le, Span.eq_of_nanos hhigh]

end Testbed
