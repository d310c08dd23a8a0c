import Testbed.Policy

/-!
Rounds of polls. A poll ends with the first round that settles the matter; without one it makes as
many rounds as it may.
-/
namespace Testbed

variable {S α β : Type} {round : β → S → (α ⊕ β) × S} {n : Nat} {b b' : β} {s s' : S}

/-- Rounds in a row that settle nothing, with the remainders and states before and after. -/
inductive Unsettled (round : β → S → (α ⊕ β) × S) (b : β) (s : S) : Nat → β → S → Prop
  | start : Unsettled round b s 0 b s
  | next {n : Nat} {b' b'' : β} {s' s'' : S} (before : Unsettled round b s n b' s')
      (last : round b' s' = (.inr b'', s'')) : Unsettled round b s (n + 1) b'' s''

theorem Unsettled.keeps {P : S → Prop} (hround : ∀ b s, P s → P (round b s).2)
    (h : Unsettled round b s n b' s') (hs : P s) : P s' := by
  induction h with
  | start => exact hs
  | @next _ b₁ _ s₁ _ _ last ih =>
    have hnext := hround b₁ s₁ ih
    rwa [last] at hnext

theorem pollFrom_keeps {P : S → Prop} (hround : ∀ b s, P s → P (round b s).2) (left : Nat) (b : β)
    (hs : P s) : P (pollFrom round left b s).2 := by
  induction left generalizing b s with
  | zero =>
    have h := hround b s hs
    rw [pollFrom]
    rcases hr : round b s with ⟨a | b', s'⟩ <;> rwa [hr] at h
  | succ left ih =>
    have h := hround b s hs
    rw [pollFrom]
    rcases hr : round b s with ⟨a | b', s'⟩ <;> rw [hr] at h
    · exact h
    · exact ih b' h

end Testbed
