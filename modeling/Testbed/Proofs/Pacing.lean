import Testbed.Proofs.Polling
import Testbed.Proofs.Windows

/-!
Waits, told by their rounds and by the windows of their delays. A wait ends with the first round
that settles the matter, or after as many as its policy allows. It is broken off where it would
sleep for a delay from a window without a point to draw.
-/
namespace Testbed

namespace Policy

/-- The window of the `n`-th delay has no point to draw. -/
def Blocked (p : Policy) (n : Nat) : Prop :=
  Wait.mostDrawable ≤ 2 ^ n * p.min.nanos ∧ 2 ^ n * p.min.nanos < p.max.nanos

instance (p : Policy) (n : Nat) : Decidable (p.Blocked n) :=
  inferInstanceAs (Decidable (_ ∧ _))

variable {p : Policy}

theorem not_blocked_of_le (h : p.max.nanos ≤ Wait.mostDrawable) (n : Nat) : ¬p.Blocked n :=
  fun ⟨hmost, hmax⟩ => absurd (Nat.lt_of_lt_of_le hmax h) (Nat.not_lt.mpr hmost)

theorem max_le_low_advanced (hp : p.max.nanos ≤ p.min.nanos) (n : Nat) :
    p.max.nanos ≤ (Wait.advanced p n).low.nanos := by
  induction n with
  | zero => exact hp
  | succ n ih =>
    rw [Wait.advanced, Wait.widened, Span.nanos_doubled_min, (high_advanced p n).1]
    omega

theorem delay?_advanced_eq_none_iff {draw n : Nat} :
    (Wait.advanced p n).delay? draw = none ↔ p.Blocked n := by
  rcases Nat.le_total p.min.nanos p.max.nanos with hp | hp
  · have hnone : p.delay? (fun _ => draw) n = none ↔ p.Blocked n := delay?_eq_none_iff hp
    exact hnone
  · have hhigh := p.edge_le (n + 1)
    have hmin : p.min.nanos ≤ 2 ^ n * p.min.nanos :=
      Nat.le_mul_of_pos_left _ (Nat.two_pow_pos n)
    have hpoint : (Wait.advanced p n).high.nanos ≤ (Wait.advanced p n).low.nanos := by
      rw [(high_advanced p n).2]
      exact hhigh.trans (max_le_low_advanced hp n)
    rw [Wait.delay?_of_point hpoint, Blocked]
    simp only [reduceCtorEq, false_iff, not_and]
    omega

def vast : Policy := ⟨.ofNanos (2 * 10 ^ 10 * 10 ^ 9), .ofNanos (9 * 10 ^ 10 * 10 ^ 9), 3⟩

theorem vast_blocked : vast.Blocked 0 := by decide

theorem exists_delay_advanced {n : Nat} (h : ¬p.Blocked n) :
    ∃ d, (Wait.advanced p n).delay? 0 = some d := by
  rw [← Option.isSome_iff_exists, Option.isSome_iff_ne_none, ne_eq, delay?_advanced_eq_none_iff]
  exact h

end Policy

variable {S α β : Type} {round : β → S → (α ⊕ β) × S} {n left : Nat} {b b' b'' : β} {s s' s'' : S}
  {a : α} {p : Policy} {w : Wait}

theorem pacedFrom_of_inl (h : round b s = (.inl a, s')) (left : Nat) (w : Wait) :
    pacedFrom round left w b s = (.settled a, s') := by
  cases left <;> rw [pacedFrom, h]

theorem pacedFrom_zero_of_inr (h : round b s = (.inr b', s')) (w : Wait) :
    pacedFrom round 0 w b s = (.exhausted b', s') := by
  rw [pacedFrom, h]

theorem pacedFrom_of_drawn (h : round b s = (.inr b', s')) {d : Span} (hd : w.delay? 0 = some d)
    (left : Nat) : pacedFrom round (left + 1) w b s = pacedFrom round left w.widened b' s' := by
  rw [pacedFrom, h]
  dsimp only
  rw [hd]

theorem pacedFrom_of_blocked (h : round b s = (.inr b', s')) (hd : w.delay? 0 = none)
    (left : Nat) : pacedFrom round (left + 1) w b s = (.undrawable, s') := by
  rw [pacedFrom, h]
  dsimp only
  rw [hd]

theorem Unsettled.pacedFrom_eq (h : Unsettled round b s n b' s') (hd : ∀ j < n, ¬p.Blocked j)
    (left : Nat) :
    pacedFrom round (n + left) (.start p) b s = pacedFrom round left (.advanced p n) b' s' := by
  induction h generalizing left with
  | start =>
    rw [Nat.zero_add]
    rfl
  | next _ last ih =>
    obtain ⟨hbefore, hlast⟩ := Nat.forall_lt_succ_right.mp hd
    obtain ⟨_, hdelay⟩ := Policy.exists_delay_advanced hlast
    rw [Nat.add_right_comm, Nat.add_assoc, ih hbefore, pacedFrom_of_drawn last hdelay]
    rfl

theorem Unsettled.paced_of_settled (h : Unsettled round b s n b' s')
    (hd : ∀ j < n, ¬p.Blocked j) (hn : n < p.attempts) (hr : round b' s' = (.inl a, s'')) :
    paced p round b s = (.settled a, s'') := by
  obtain ⟨left, hleft⟩ := Nat.exists_eq_add_of_le (Nat.le_sub_one_of_lt hn)
  rw [paced, hleft, h.pacedFrom_eq hd, pacedFrom_of_inl hr]

theorem Policy.exists_attempts (p : Policy) : ∃ n, p.attempts = n + 1 :=
  Nat.exists_eq_add_one.mpr (Nat.lt_of_lt_of_le Nat.one_pos (Nat.le_max_left 1 p.retries))

theorem Unsettled.paced_of_exhausted (h : Unsettled round b s p.attempts b' s')
    (hd : ∀ j, j + 1 < p.attempts → ¬p.Blocked j) : paced p round b s = (.exhausted b', s') := by
  obtain ⟨n, hn⟩ := p.exists_attempts
  rw [hn] at h hd
  cases h with
  | next before last =>
    have hrounds := before.pacedFrom_eq (fun j hj => hd j (Nat.succ_lt_succ hj)) 0
    rw [Nat.add_zero] at hrounds
    rw [paced, hn, Nat.add_sub_cancel, hrounds, pacedFrom_zero_of_inr last]

theorem Unsettled.paced_of_blocked (h : Unsettled round b s (n + 1) b' s')
    (hn : n + 1 < p.attempts) (hd : ∀ j < n, ¬p.Blocked j) (hblocked : p.Blocked n) :
    paced p round b s = (.undrawable, s') := by
  obtain ⟨left, hleft⟩ := Nat.exists_eq_add_of_le (Nat.le_sub_one_of_lt hn)
  cases h with
  | next before last =>
    rw [paced, hleft, Nat.add_assoc, Nat.add_comm 1, before.pacedFrom_eq hd,
      pacedFrom_of_blocked last (Policy.delay?_advanced_eq_none_iff.mpr hblocked)]

theorem Unsettled.pacedFrom_cases (h : Unsettled round b s n b' s') (hd : ∀ j < n, ¬p.Blocked j)
    (left : Nat) : ∃ m b'' s'', m ≤ n + (left + 1) ∧ Unsettled round b s m b'' s'' ∧
      ((m < n + (left + 1) ∧ (∀ j < m, ¬p.Blocked j) ∧ ∃ a t, round b'' s'' = (.inl a, t) ∧
          pacedFrom round left (.advanced p n) b' s' = (.settled a, t)) ∨
        pacedFrom round left (.advanced p n) b' s' = (.exhausted b'', s'') ∨
        pacedFrom round left (.advanced p n) b' s' = (.undrawable, s'')) := by
  induction left generalizing n b' s' with
  | zero =>
    rcases hr : round b' s' with ⟨a | b'', s''⟩
    · exact ⟨n, b', s', Nat.le_add_right _ _, h,
        .inl ⟨Nat.lt_succ_self n, hd, a, s'', hr, pacedFrom_of_inl hr 0 _⟩⟩
    · exact ⟨n + 1, b'', s'', Nat.le_refl _, h.next hr,
        .inr (.inl (pacedFrom_zero_of_inr hr _))⟩
  | succ left ih =>
    rcases hr : round b' s' with ⟨a | b'', s''⟩
    · exact ⟨n, b', s', Nat.le_add_right _ _, h,
        .inl ⟨by omega, hd, a, s'', hr, pacedFrom_of_inl hr _ _⟩⟩
    · by_cases hb : p.Blocked n
      · have hdelay : (Wait.advanced p n).delay? 0 = none :=
          Policy.delay?_advanced_eq_none_iff.mpr hb
        exact ⟨n + 1, b'', s'', by omega, h.next hr,
          .inr (.inr (pacedFrom_of_blocked hr hdelay left))⟩
      · obtain ⟨d, hdelay⟩ := Policy.exists_delay_advanced hb
        obtain ⟨m, b₁, s₁, hm, hun, hcases⟩ :=
          ih (h.next hr) (Nat.forall_lt_succ_right.mpr ⟨hd, hb⟩)
        rw [Nat.add_right_comm, Nat.add_assoc] at hm hcases
        rw [Wait.advanced, ← pacedFrom_of_drawn hr hdelay left] at hcases
        exact ⟨m, b₁, s₁, hm, hun, hcases⟩

/-- Each wait is one of the three: a round settles the matter after others that did not, none of
those it may make does, or a delay after one of them has no point to draw. -/
theorem paced_cases (p : Policy) (round : β → S → (α ⊕ β) × S) (b : β) (s : S) :
    ∃ n b' s', n ≤ p.attempts ∧ Unsettled round b s n b' s' ∧
      ((n < p.attempts ∧ (∀ j < n, ¬p.Blocked j) ∧ ∃ a s'', round b' s' = (.inl a, s'') ∧
          paced p round b s = (.settled a, s'')) ∨
        paced p round b s = (.exhausted b', s') ∨ paced p round b s = (.undrawable, s')) := by
  obtain ⟨left, hleft⟩ := p.exists_attempts
  have hstart : Unsettled round b s 0 b s := .start
  have hcases := hstart.pacedFrom_cases (p := p) (fun j hj => absurd hj (Nat.not_lt_zero j)) left
  rwa [Nat.zero_add, ← hleft, ← Nat.add_sub_cancel (n := left) (m := 1), ← hleft] at hcases

theorem paced_eq_settled_iff : paced p round b s = (.settled a, s'') ↔
    ∃ n b' s', n < p.attempts ∧ (∀ j < n, ¬p.Blocked j) ∧ Unsettled round b s n b' s' ∧
      round b' s' = (.inl a, s'') := by
  refine ⟨fun h => ?_, fun ⟨n, b', s', hn, hd, hun, hr⟩ => hun.paced_of_settled hd hn hr⟩
  obtain ⟨n, b', s', -, hun, ⟨hn, hd, a', t, hr, heq⟩ | heq | heq⟩ := paced_cases p round b s
  · cases heq.symm.trans h
    exact ⟨n, b', s', hn, hd, hun, hr⟩
  · cases heq.symm.trans h
  · cases heq.symm.trans h

theorem paced_keeps {P : S → Prop} (hround : ∀ b s, P s → P (round b s).2) (p : Policy) (b : β)
    (hs : P s) : P (paced p round b s).2 := by
  obtain ⟨n, b', s', -, hun, ⟨-, -, a, s'', hr, heq⟩ | heq | heq⟩ := paced_cases p round b s
  · have hlast := hround b' s' (hun.keeps hround hs)
    rwa [heq, ← congrArg Prod.snd hr]
  · exact heq ▸ hun.keeps hround hs
  · exact heq ▸ hun.keeps hround hs

theorem paced_of_unsettling {P : S → Prop}
    (hround : ∀ b s, P s → ∃ b' s', round b s = (.inr b', s') ∧ P s') (p : Policy) (b : β)
    (hs : P s) : (∃ b' s', paced p round b s = (.exhausted b', s')) ∨
      ∃ s', paced p round b s = (.undrawable, s') := by
  obtain ⟨n, b', s', -, hun, ⟨-, -, a, s'', hr, -⟩ | heq | heq⟩ := paced_cases p round b s
  · have hkept : P s' := by
      refine hun.keeps (fun b s hs => ?_) hs
      obtain ⟨_, _, hr, hs'⟩ := hround b s hs
      rwa [hr]
    obtain ⟨b'', s₁, hr', -⟩ := hround b' s' hkept
    cases hr.symm.trans hr'
  · exact .inl ⟨b', s', heq⟩
  · exact .inr ⟨s', heq⟩

theorem pacedFrom_view {T : Type} (view : T → S) {round' : β → T → (α ⊕ β) × T}
    (h : ∀ b t, ((round' b t).1, view (round' b t).2) = round b (view t)) (left : Nat) (w : Wait)
    (b : β) (t : T) :
    ((pacedFrom round' left w b t).1, view (pacedFrom round' left w b t).2) =
      pacedFrom round left w b (view t) := by
  induction left generalizing w b t with
  | zero =>
    rw [pacedFrom, pacedFrom, ← h b t]
    rcases round' b t with ⟨a | b', t'⟩ <;> rfl
  | succ left ih =>
    rw [pacedFrom, pacedFrom, ← h b t]
    rcases round' b t with ⟨a | b', t'⟩
    · rfl
    · dsimp only
      cases w.delay? 0 with
      | none => rfl
      | some d => exact ih w.widened b' t'

theorem paced_view {T : Type} (view : T → S) {round' : β → T → (α ⊕ β) × T}
    (h : ∀ b t, ((round' b t).1, view (round' b t).2) = round b (view t)) (p : Policy) (b : β)
    (t : T) :
    ((paced p round' b t).1, view (paced p round' b t).2) = paced p round b (view t) :=
  pacedFrom_view view h _ _ b t

theorem pacedFrom_eq_pollFrom (hw : ∀ n, ∃ d, (Wait.advanced p n).delay? 0 = some d) (n : Nat)
    (left : Nat) (b : β) (s : S) :
    pacedFrom round left (.advanced p n) b s =
      match pollFrom round left b s with
      | (.inl a, s) => (.settled a, s)
      | (.inr b, s) => (.exhausted b, s) := by
  induction left generalizing n b s with
  | zero =>
    rw [pacedFrom, pollFrom]
    rcases round b s with ⟨a | b', s'⟩ <;> rfl
  | succ left ih =>
    obtain ⟨d, hd⟩ := hw n
    rw [pacedFrom, pollFrom, hd]
    rcases round b s with ⟨a | b', s'⟩
    · rfl
    · exact ih (n + 1) b' s'

/-- Where every delay can be drawn a wait is a poll. -/
theorem paced_eq_poll (h : ∀ n, ¬p.Blocked n) (round : β → S → (α ⊕ β) × S) (b : β) (s : S) :
    paced p round b s =
      match poll p round b s with
      | (.inl a, s) => (.settled a, s)
      | (.inr b, s) => (.exhausted b, s) :=
  pacedFrom_eq_pollFrom (fun n => Policy.exists_delay_advanced (h n)) 0 _ b s

end Testbed
