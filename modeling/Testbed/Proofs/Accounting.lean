import Testbed.Proofs.Started

/-!
Launches against halts over whole histories.
-/
namespace Testbed

open Environment History

variable {σ κ : Type} {i : Nat} {w : Workload κ} {x : Happening κ} {h : List (Happening κ)}

def History.Up (i : Nat) (w : Workload κ) (h : List (Happening κ)) : Prop :=
  ∃ pre post, h = pre ++ .launched i (some w) :: post ∧ ∀ x ∈ post, x.halts i = false

/-- Whether the backend may be asked for something after what happened before. A launch wants
every earlier launch of the runnable to be matched by a halt; a halt and a command want the
workload they are asked of. -/
def Happening.Warranted (pre : List (Happening κ)) : Happening κ → Prop
  | .launched i _ => pre.countP (·.launches i) = pre.countP (·.halts i)
  | .halted _ i w _ => Up i w pre
  | .executed i w _ => Up i w pre
  | _ => True

theorem History.up_of_live (hw : live idle h i = some w) : Up i w h := by
  induction h using List.reverseRecOn with
  | nil => cases hw
  | append_singleton h x ih =>
    rw [live_append, live_cons, live_nil] at hw
    cases hl : x.launches i with
    | true =>
      obtain ⟨w', rfl⟩ := Happening.exists_of_launches hl
      rw [Happening.apply, Function.update_self] at hw
      cases hw
      exact ⟨h, [], rfl, by simp⟩
    | false =>
      cases hh : x.halts i with
      | true =>
        rw [Happening.apply_of_halts hh] at hw
        cases hw
      | false =>
        rw [Happening.apply_eq_of_ne hl hh] at hw
        obtain ⟨pre, post, rfl, hpost⟩ := ih hw
        refine ⟨pre, post ++ [x], by simp, fun y hy => ?_⟩
        rcases List.mem_append.mp hy with hy | hy
        · exact hpost y hy
        · rwa [List.mem_singleton.mp hy]

theorem History.countP_eq_of_idle (ho : Orderly idle h) (hi : live idle h i = none) :
    h.countP (·.launches i) = h.countP (·.halts i) := by
  have hc := countP_launches i ho
  rw [hi] at hc
  simpa [idle] using hc

theorem Happening.InPlace.warranted (ho : Orderly idle h) (hx : x.InPlace (live idle h)) :
    x.Warranted h := by
  cases x with
  | launched i w? => exact countP_eq_of_idle ho hx
  | halted how i w ok => exact up_of_live hx
  | executed i w c => exact up_of_live hx
  | _ => trivial

namespace Environment

variable {e : Environment σ κ} {b : Backend σ κ} {net : Network σ}

theorem Faithful.balance (hf : e.Faithful) (i : Nat) :
    e.history.countP (·.launches i) =
      e.history.countP (·.halts i) + if e.isRunning i then 1 else 0 := by
  have hc := countP_launches i hf.orderly
  rw [hf.isRunning]
  simpa [idle] using hc

theorem Faithful.warranted (hf : e.Faithful) {pre post : List (Happening κ)}
    (hh : e.history = pre ++ x :: post) : x.Warranted pre := by
  have ho := hf.orderly
  rw [hh, orderly_append] at ho
  exact Happening.InPlace.warranted ho.1 ho.2.1

theorem start_of_running (hi : e.isRunning i = true) : (start b net i).after e = e := by
  unfold Act.after start
  split
  · rfl
  · rfl
  · next r _ hr =>
    have hrun : r.lifecycle.isRunning = true := by
      simpa [Environment.isRunning, lifecycle?, hr] using hi
    simp [hrun]

/-- At every point of a run the launches of a runnable that succeeded outnumber its halts that
succeeded by one if it runs, and by none if it does not. Whatever the backend was asked for was
warranted, and a halt of a runnable that does not run, like a start of one that does, asks it
for nothing. -/
theorem launches_balance_halts (hr : e.Reachable b net) (i : Nat) :
    e.history.countP (·.launches i) =
      e.history.countP (·.halts i) + (if e.isRunning i then 1 else 0) ∧
    (∀ pre x post, e.history = pre ++ x :: post → x.Warranted pre) ∧
    (e.isRunning i = false → ∀ how, halt b how i e = (.ok (), e)) ∧
    (e.isRunning i = true → (start b net i).after e = e) := by
  have hf := hr.faithful
  refine ⟨hf.balance i, fun _ _ _ hh => hf.warranted hh, fun hi how => ?_, start_of_running⟩
  rw [hf.held.isRunning, Option.isSome_eq_false_iff, Option.isNone_iff_eq_none] at hi
  exact halt_idle b hf.held how hi

theorem launches_balance_halts_closing : ∃ e : Environment StandIn.State String,
    e.Reachable StandIn.backend StandIn.network ∧ e.closed = true ∧
    e.history.countP (·.launches 0) = e.history.countP (·.halts 0) + 1 ∧
    e.history.countP (·.launches 1) = e.history.countP (·.halts 1) ∧
    (start StandIn.backend StandIn.network 0).after e = e ∧
    halt StandIn.backend .stop 1 e = (.ok (), e) := by
  obtain ⟨e, hr, hp⟩ := exists_reachable StandIn.backend StandIn.network (.ofName "bed") "/tmp"
    "Ab3dE9" ⟨.empty, .empty, { StandIn.State.empty with
      staging := { StandIn.Staging.empty with
        closesInLaunch := ["b"], haltFails := ["a"] } }⟩ restarting
    (fun e => e.closed = true ∧ e.isRunning 0 = true ∧ e.isRunning 1 = false) (by decide +kernel)
  obtain ⟨hcl, hrun, hstill⟩ := of_decide_eq_true hp
  obtain ⟨hbal, -, -, hstart⟩ := launches_balance_halts hr 0
  obtain ⟨hbal', -, hhalt, -⟩ := launches_balance_halts hr 1
  rw [hrun] at hbal
  rw [hstill] at hbal'
  exact ⟨e, hr, hcl, hbal, hbal', hstart hrun, hhalt hstill .stop⟩

end Environment

end Testbed
