import Testbed.Environment.Start
import Testbed.Proofs.Handling

/-!
Properties of environments that last. What survives each single change that may still be made to
a closed environment survives every request made there, the requests of closers included, and
with them a whole close.
-/
namespace Testbed

open Environment

variable {σ κ : Type} {P : Environment σ κ → Prop} {e e' : Environment σ κ} {i : Nat}

namespace Environment

structure Lasting (P : Environment σ κ → Prop) : Prop where
  kept : ∀ {e e'}, Kept e e' → P e → P e'
  struck : ∀ {i e e'}, Struck i e e' → P e → P e'
  ready : ∀ {e} i, P e → P (e.update i markReady)
  initialised : ∀ {e} f o, P e → P ((initialise f o).after e)
  aside : ∀ {e} reserved listeners, e.Admits reserved → P e → P { e with reserved, listeners }

theorem lasting_of_frame
    (hframe : ∀ {e : Environment σ κ} world history runnables started, P e →
      P { e with world, history, runnables, started })
    (haside : ∀ {e : Environment σ κ} reserved listeners, e.Admits reserved → P e →
      P { e with reserved, listeners }) : Lasting P where
  kept {e e'} hk he := by
    rw [hk.rest]
    exact hframe e'.world e'.history e.runnables e.started he
  struck hs he := by
    rw [hs.rest]
    exact hframe _ _ _ _ he
  ready {e} i he := hframe e.world e.history (e.update i markReady).runnables e.started he
  initialised {e} f o he := by
    obtain ⟨rs, heq, -⟩ := initialise_after f o e
    rw [heq]
    exact hframe e.world e.history (e.runnables ++ rs) e.started he
  aside := haside

theorem Lasting.handled (hl : Lasting P) (h : Handled i e e') (he : P e) : P e' := by
  rcases h with hk | hs
  · exact hl.kept hk he
  · exact hl.struck hs he

variable (b : Backend σ κ) (net : Network σ)

theorem Lasting.waitReady (hl : Lasting P) (i : Nat) (he : P e) :
    P ((waitReady b net i).after e) := by
  obtain ⟨e₁, hh, ⟨heq, -⟩ | ⟨f, heq⟩⟩ := waitReady_handled b net i e
  · rw [Act.after, heq]
    exact hl.ready i (hl.handled hh he)
  · rw [Act.after, heq]
    exact hl.handled hh he

end Environment

variable (b : Backend σ κ) (net : Network σ)

mutual

theorem Environment.Lasting.applyClosed (hl : Lasting P) :
    (r : Request) → (e : Environment σ κ) → P e → P (r.applyClosed b net e)
  | .reserve name, e, he => by
    obtain ⟨reserved, hn, heq⟩ := reserve_after name e
    rw [Request.applyClosed, heq]
    exact hl.aside reserved e.listeners hn he
  | .settle r, e, he => hl.kept (settle_kept r e) he
  | .initialise f o, _, he => hl.initialised f o he
  | .halt how i, e, he => hl.handled (halt_handled b how i e) he
  | .exec i c sinks, e, he => hl.handled (exec_handled b i c sinks e) he
  | .waitReady i, _, he => hl.waitReady b net i he
  | .addListener id, e, he =>
    hl.aside e.reserved (e.listeners ++ [id]) (.inl rfl) he
  | .addCloser id requests, e, he =>
    Environment.Lasting.applyAllClosed hl requests _
      (hl.kept (kept_noteCloser ⟨id, e.runnables.length, requests⟩ e) he)
  | .start _, _, he => he
  | .close, _, he => he
  | .drop, _, he => he

theorem Environment.Lasting.applyAllClosed (hl : Lasting P) :
    (rs : List Request) → (e : Environment σ κ) → P e → P (Request.applyAllClosed b net rs e)
  | [], _, he => he
  | r :: rs, _, he =>
    Environment.Lasting.applyAllClosed hl rs _ (Environment.Lasting.applyClosed hl r _ he)

end

namespace Environment

theorem Lasting.runCloser (hl : Lasting P) (c : Closer) (he : P e) : P (e.runCloser b net c) :=
  hl.applyAllClosed b net c.requests _ (hl.kept (kept_noteCloser c e) he)

theorem Lasting.runClosers (hl : Lasting P) (he : P e.sealed) : P (e.runClosers b net) := by
  rw [Environment.runClosers]
  generalize e.closers = cs, e.sealed = k at he
  induction cs generalizing k with
  | nil => exact he
  | cons c cs ih => exact ih _ (hl.runCloser b net c he)

theorem Lasting.killAll (hl : Lasting P) (l : List Nat) (he : P e) : P (killAll b l e) := by
  induction l generalizing e with
  | nil => exact he
  | cons i l ih => exact ih (hl.handled (halt_handled b .kill i e) he)

theorem kept_destroyScope (e : Environment σ κ) : Kept e (destroyScope b e) :=
  (kept_world e _).trans (kept_record (x := .scopeDestroyed) rfl _)

theorem kept_release (e : Environment σ κ) : Kept e e.release :=
  (kept_world e _).trans (kept_record (x := .released !e.config.keepDir) rfl _)

theorem Lasting.close (hl : Lasting P) (ho : e.closed = false) (he : P e.sealed) :
    P (close b net e) := by
  have hk := hl.killAll b e.started.reverse (hl.runClosers b net he)
  rw [Environment.close, ho]
  exact hl.kept (kept_release _) (hl.kept (kept_destroyScope b _) hk)

end Environment

end Testbed
