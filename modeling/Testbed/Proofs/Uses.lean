import Testbed.Proofs.Polling
import Testbed.Tool

/-!
Tools with a record of their uses. Whatever the tools do, the record says what they were asked
to do and in which order.
-/
namespace Testbed

variable {σ α β : Type}

/-- One use of a tool: it was called, or a process was to be started with it. -/
inductive Use where
  | call (i : Invocation)
  | process (i : Invocation) (started : Bool)
deriving DecidableEq

namespace Use

def invocation : Use → Invocation
  | call i => i
  | process i _ => i

def ran : Use → Bool
  | call _ => true
  | process _ started => started

end Use

namespace World

def bare (w : World (σ × List Use)) : World σ := ⟨w.files, w.clusters, w.rest.1⟩

def recording (w : World σ) (us : List Use) : World (σ × List Use) :=
  ⟨w.files, w.clusters, (w.rest, us)⟩

def uses (w : World (σ × List Use)) : List Use := w.rest.2

@[simp] theorem uses_recording (w : World σ) (us : List Use) : (w.recording us).uses = us := rfl

end World

def Tools.recorded (ts : Tools σ) : Tools (σ × List Use) where
  find name w := ts.find name w.bare
  run i w :=
    let (r, world) := ts.run i w.bare
    (r, world.recording (w.uses ++ [.call i]))
  spawn i log w :=
    let (r, world) := ts.spawn i log w.bare
    (r, world.recording (w.uses ++ [.process i r.toBool]))
  poll p w :=
    let (ending, world) := ts.poll p w.bare
    (ending, world.recording w.uses)
  reap p w := (ts.reap p w.bare).recording w.uses

def UsesOnly (p : Use → Prop) (w w' : World (σ × List Use)) : Prop :=
  ∃ us, w'.uses = w.uses ++ us ∧ ∀ u ∈ us, p u

namespace UsesOnly

variable {p q : Use → Prop} {w w' w'' : World (σ × List Use)}

theorem of_eq (h : w'.uses = w.uses) : UsesOnly p w w' :=
  ⟨[], by rw [h, List.append_nil], by simp⟩

theorem of_concat {u : Use} (h : w'.uses = w.uses ++ [u]) (hu : p u) : UsesOnly p w w' :=
  ⟨[u], h, by simpa using hu⟩

theorem trans (h : UsesOnly p w w') (h' : UsesOnly p w' w'') : UsesOnly p w w'' := by
  obtain ⟨us, hus, hp⟩ := h
  obtain ⟨us', hus', hp'⟩ := h'
  refine ⟨us ++ us', by rw [hus', hus, List.append_assoc], fun u hu => ?_⟩
  rcases List.mem_append.mp hu with hu | hu
  · exact hp u hu
  · exact hp' u hu

theorem uses_eq (h : UsesOnly (fun _ => False) w w') : w'.uses = w.uses := by
  obtain ⟨us, hus, hnone⟩ := h
  rw [hus, List.eq_nil_iff_forall_not_mem.mpr hnone, List.append_nil]

theorem bind {x : Act (World (σ × List Use)) α} {f : α → Act (World (σ × List Use)) β}
    (hx : ∀ w, UsesOnly p w (x w).2) (hf : ∀ a w, UsesOnly p w (f a w).2)
    (w : World (σ × List Use)) : UsesOnly p w ((x >>= f) w).2 := by
  have h := hx w
  rcases hr : x w with ⟨_ | a, w'⟩
  · rw [hr] at h
    rwa [Act.bind_error hr]
  · rw [hr] at h
    rw [Act.bind_ok hr]
    exact h.trans (hf a w')

theorem pollFrom {round : β → World (σ × List Use) → (α ⊕ β) × World (σ × List Use)}
    (hr : ∀ b w, UsesOnly p w (round b w).2) (left : Nat) (b : β) (w : World (σ × List Use)) :
    UsesOnly p w (Testbed.pollFrom round left b w).2 :=
  pollFrom_keeps (fun b w' h => h.trans (hr b w')) left b (of_eq rfl)

theorem mapEntriesAct {f : String → α → Act (World (σ × List Use)) β}
    (hf : ∀ k v w, UsesOnly p w (f k v w).2) (entries : List (String × α)) :
    ∀ w, UsesOnly p w (Table.mapEntriesAct f entries w).2 := by
  induction entries with
  | nil => exact fun w => of_eq rfl
  | cons e r ih =>
    exact bind (hf e.1 e.2) fun v => bind ih fun rest w => of_eq rfl

theorem mapAct {f : String → α → Act (World (σ × List Use)) β}
    (hf : ∀ k v w, UsesOnly p w (f k v w).2) (t : Table α) (w : World (σ × List Use)) :
    UsesOnly p w (t.mapAct f w).2 := by
  have h := mapEntriesAct hf t.entries w
  unfold Table.mapAct
  split
  · next hr => rwa [hr] at h
  · next hr => rwa [hr] at h

end UsesOnly

namespace Tool

variable (ts : Tools σ) (t : Tool) (args : List String) (w : World (σ × List Use))

theorem uses_output :
    (t.output ts.recorded args w).2.uses = w.uses ++ [.call (t.invocation args)] := by
  rw [after_output]
  rfl

theorem uses_run :
    (t.run ts.recorded args w).2.uses = w.uses ++ [.call (t.invocation args)] := by
  rw [after_run]
  rfl

theorem uses_runBestEffort :
    (t.runBestEffort ts.recorded args w).uses = w.uses ++ [.call (t.invocation args)] :=
  uses_run ts t args w

theorem uses_spawn (log : String) :
    (t.spawn ts.recorded args log w).2.uses =
      w.uses ++ [.process (t.invocation args) (t.spawn ts.recorded args log w).1.toBool] := by
  rcases hs : ts.spawn (t.invocation args) log w.bare with ⟨_ | p, w'⟩ <;>
    simp [spawn, Tools.recorded, hs, Except.toBool]

end Tool

namespace World

variable (w : World (σ × List Use))

theorem uses_onFiles (path : String) (op : Files → Except FileError Files) :
    (onFiles path op w).2.uses = w.uses := by
  unfold onFiles
  split <;> rfl

theorem uses_appendLog (dir runnable line : String) :
    (appendLog dir runnable line w).2.uses = w.uses := by
  have hfiles : ∀ path op w,
      UsesOnly (fun _ => False) w (onFiles (σ := σ × List Use) path op w).2 :=
    fun path op w => .of_eq (uses_onFiles w path op)
  have h : UsesOnly (fun _ => False) w (appendLog dir runnable line w).2 := by
    unfold appendLog
    exact UsesOnly.bind (hfiles _ _) (fun _ => hfiles _ _) w
  exact h.uses_eq

end World

end Testbed
