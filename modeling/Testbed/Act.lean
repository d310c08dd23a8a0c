import Testbed.Failure
import Testbed.Table

/-!
Actions on a state that may fail. What an action did to the state before it failed stays done.
-/
namespace Testbed

def Act (S α : Type) : Type := S → Except Failure α × S

namespace Act

variable {S α β : Type}

instance : Monad (Act S) where
  pure a := fun s => (.ok a, s)
  bind x f := fun s =>
    match x s with
    | (.ok a, s) => f a s
    | (.error e, s) => (.error e, s)

def fail (e : Failure) : Act S α := fun s => (.error e, s)

def ofExcept (r : Except Failure α) : Act S α := fun s => (r, s)

def ofState (f : S → S) : Act S Unit := fun s => (.ok (), f s)

def asks (f : S → α) : Act S α := fun s => (.ok (f s), s)

def attempt (x : Act S α) : Act S (Except Failure α) := fun s =>
  let (r, s) := x s
  (.ok r, s)

def after (x : Act S α) (s : S) : S := (x s).2

@[simp] theorem bind_ok {x : Act S α} {f : α → Act S β} {s t : S} {a : α}
    (h : x s = (.ok a, t)) : (x >>= f) s = f a t := by
  simp [bind, h]

@[simp] theorem bind_error {x : Act S α} {f : α → Act S β} {s t : S} {e : Failure}
    (h : x s = (.error e, t)) : (x >>= f) s = (.error e, t) := by
  simp [bind, h]

theorem bind_assoc {γ : Type} (x : Act S α) (f : α → Act S β) (g : β → Act S γ) :
    x >>= f >>= g = x >>= fun a => f a >>= g := by
  funext s
  rcases hx : x s with ⟨e | a, t⟩
  · rw [bind_error hx, bind_error (bind_error hx)]
  · rw [bind_ok hx]
    simp only [bind, hx]

theorem bind_eq_ok {x : Act S α} {f : α → Act S β} {s t : S} {b : β} :
    (x >>= f) s = (.ok b, t) ↔ ∃ a u, x s = (.ok a, u) ∧ f a u = (.ok b, t) := by
  rcases hx : x s with ⟨e | a, u⟩
  · rw [bind_error hx]
    simp
  · rw [bind_ok hx]
    constructor
    · intro h
      exact ⟨a, u, rfl, h⟩
    · rintro ⟨a', u', heq, h⟩
      cases heq
      exact h

theorem eq_ok_of_isOk {x : Act S Unit} {s : S} (h : (x s).1.isOk = true) :
    x s = (.ok (), x.after s) := by
  unfold after
  rcases hx : x s with ⟨e | ⟨⟩, t⟩
  · rw [hx] at h
    cases h
  · rfl

theorem after_bind {x : Act S α} {f : α → Act S β} (h : ∀ a s, (f a).after s = s) :
    (x >>= f).after = x.after := by
  funext s
  unfold after
  rcases hx : x s with ⟨e | a, t⟩
  · rw [bind_error hx]
  · rw [bind_ok hx]
    exact h a t

@[simp] theorem pure_apply (a : α) (s : S) : (pure a : Act S α) s = (.ok a, s) := rfl

end Act

def forEach {S α : Type} (f : α → Act S Unit) : List α → Act S Unit
  | [] => pure ()
  | a :: r => do
    f a
    forEach f r

namespace Table

variable {S α β : Type}

def mapEntriesAct (f : String → α → Act S β) : List (String × α) → Act S (List (String × β))
  | [] => pure []
  | (k, v) :: r => do
    let w ← f k v
    return (k, w) :: (← mapEntriesAct f r)

theorem keys_mapEntriesAct {f : String → α → Act S β} {entries : List (String × α)} {s t : S}
    {out : List (String × β)} (h : mapEntriesAct f entries s = (.ok out, t)) :
    out.map (·.1) = entries.map (·.1) := by
  induction entries generalizing s t out with
  | nil =>
    cases h
    rfl
  | cons e r ih =>
    obtain ⟨k, v⟩ := e
    simp only [mapEntriesAct, bind] at h
    rcases hv : f k v s with ⟨_ | w, u⟩
    · simp [hv] at h
    · rcases hr : mapEntriesAct f r u with ⟨_ | rest, u'⟩
      · simp [hv, hr] at h
      · simp only [hv, hr, Act.pure_apply, Prod.mk.injEq, Except.ok.injEq] at h
        simp [← h.1, ih hr]

def mapAct (f : String → α → Act S β) (t : Table α) : Act S (Table β) := fun s =>
  match h : mapEntriesAct f t.entries s with
  | (.error e, s) => (.error e, s)
  | (.ok entries, s) => (.ok ⟨entries, rising_of_keys t.rising (keys_mapEntriesAct h)⟩, s)

theorem keys_mapAct {f : String → α → Act S β} {t : Table α} {s s' : S} {u : Table β}
    (h : t.mapAct f s = (.ok u, s')) : u.keys = t.keys := by
  unfold mapAct at h
  split at h
  · cases h
  · next hentries =>
    cases h
    exact keys_mapEntriesAct hentries

end Table

end Testbed
