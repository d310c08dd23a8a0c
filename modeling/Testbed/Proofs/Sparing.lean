import Testbed.Docker.Backend
import Testbed.Kind.Backend
import Testbed.Proofs.Directories
import Testbed.StandIn.Backend
import Testbed.StandIn.Network
import Testbed.StandIn.Tools

/-!
What spares a path: there is something at the path afterwards exactly if there was before.
Halting a workload and running a command in it spare every path that the tools themselves spare.
-/
namespace Testbed

variable {σ κ : Type} {path : String} {w w' w'' : World σ}

def Spared (path : String) (w w' : World σ) : Prop :=
  w'.files.exists? path = w.files.exists? path

theorem Spared.refl (path : String) (w : World σ) : Spared path w w := rfl

theorem Spared.trans (h : Spared path w w') (h' : Spared path w' w'') : Spared path w w'' :=
  Eq.trans h' h

theorem Spared.or_false (h : Spared path w w') :
    w'.files.exists? path = (w.files.exists? path || false) :=
  Eq.trans h (Bool.or_false _).symm

theorem spared_of_files (h : w'.files = w.files) : Spared path w w' := by rw [Spared, h]

structure Tools.Spares (ts : Tools σ) (path : String) : Prop where
  run : ∀ i w, Spared path w (ts.run i w).2
  poll : ∀ n w, Spared path w (ts.poll n w).2
  reap : ∀ n w, Spared path w (ts.reap n w)

structure Backend.Spares (b : Backend σ κ) (path : String) : Prop where
  halt : ∀ how workload w, Spared path w (b.halt how workload w).2
  exec : ∀ workload c sinks w, Spared path w (b.exec workload c sinks w).2

structure Network.Spares (net : Network σ) (path : String) : Prop where
  get : ∀ url w, Spared path w (net.get url w).2
  dial : ∀ address w, Spared path w (net.dial address w).2

namespace Tools.Spares

variable {ts : Tools σ} (hts : ts.Spares path) (t : Tool) (args : List String) (w : World σ)

include hts

theorem tool : Spared path w (t.run ts args w).2 := by
  rw [Tool.after_run]
  exact hts.run _ w

theorem command (sinks : ExecSinks) : Spared path w (t.exec ts args sinks w).2 := by
  rw [Tool.after_exec]
  exact hts.run _ w

end Tools.Spares

variable {ts : Tools σ}

theorem Docker.halt_spared (hts : ts.Spares path) (d : Docker.Engine) (how : Halt)
    (c : Docker.Container) (w : World σ) : Spared path w (d.halt ts how c w).2 := by
  have hrun := hts.tool d.tool (Docker.Engine.haltArguments c.name how) w
  unfold Docker.Engine.halt
  rcases hr : d.tool.run ts (Docker.Engine.haltArguments c.name how) w with ⟨failure | ⟨⟩, w₁⟩ <;>
    rw [hr] at hrun
  · have hpoll := hts.poll c.process w₁
    dsimp only
    rcases hp : ts.poll c.process w₁ with ⟨_ | ending, w₂⟩ <;> rw [hp] at hpoll
    · exact hrun.trans hpoll
    · exact (hrun.trans hpoll).trans (hts.reap c.process w₂)
  · exact hrun.trans (hts.reap c.process w₁)

theorem Docker.backend_spares (hts : ts.Spares path) (d : Docker.Engine) :
    (Docker.backend ts d).Spares path where
  halt how workload w := Docker.halt_spared hts d how workload.handle w
  exec workload c sinks w := by
    simp only [Docker.backend, Docker.Engine.exec]
    split
    · rfl
    · exact hts.command _ _ w sinks

theorem Kind.halt_spared (hts : ts.Spares path) (how : Halt) (d : Kind.Deployed) (w : World σ) :
    Spared path w (Kind.Engine.halt ts how d w).2 := by
  have hrun := hts.tool d.kubectl (Kind.Engine.haltArguments d.manifest how) w
  unfold Kind.Engine.halt
  rcases hr : d.kubectl.run ts (Kind.Engine.haltArguments d.manifest how) w with
    ⟨failure | ⟨⟩, w₁⟩ <;> rw [hr] at hrun
  · rwa [Act.bind_error hr]
  · rw [Act.bind_ok hr, Act.ofState, Kind.Engine.stopFollowing]
    cases d.follower with
    | none => exact hrun
    | some process => exact hrun.trans (hts.reap process w₁)

theorem Kind.backend_spares (hts : ts.Spares path) (k : Kind.Engine) :
    (Kind.backend ts k).Spares path where
  halt how workload w := Kind.halt_spared hts how workload.handle w
  exec workload c sinks w := by
    simp only [Kind.backend, Kind.Engine.exec]
    split
    · rfl
    · exact hts.command _ _ w sinks

namespace StandIn

theorem tools_spares (path : String) : tools.Spares path where
  run i w := spared_of_files (by
    unfold tools run
    dsimp only
    split <;> rfl)
  poll n w := spared_of_files (by
    unfold tools poll
    dsimp only
    split <;> rfl)
  reap n w := by
    unfold tools reap
    dsimp only
    split
    · rfl
    · split
      · rfl
      · exact Files.exists?_extend _ _ _ _

theorem backend_spares (path : String) : backend.Spares path where
  halt how workload w := spared_of_files (by
    unfold backend halt
    dsimp only
    split <;> rfl)
  exec workload c sinks w := spared_of_files (by
    unfold backend exec
    dsimp only
    split <;> rfl)

theorem network_spares (path : String) : network.Spares path where
  get url w := spared_of_files (by
    unfold network get
    dsimp only
    split
    · rfl
    · split
      · split <;> rfl
      · rfl)
  dial address w := spared_of_files (by
    unfold network dial
    dsimp only
    split
    · rfl
    · rfl
    · split
      · rfl
      · split <;> rfl)

end StandIn

end Testbed
