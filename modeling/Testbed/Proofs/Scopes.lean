import Testbed.Proofs.FailedLaunch

/-!
Scopes that are set up and torn down, told by what is asked of tools. What is done as far as it
can be is done to its end, whatever fails on the way; what has to succeed ends a creation where it
fails, and a cluster that was created for nothing is deleted again.
-/
namespace Testbed

variable {σ S α β : Type}

def Act.Keeps (P : S → Prop) (x : Act S α) : Prop := ∀ s, P s → P (x s).2

namespace Act.Keeps

variable {P : S → Prop}

theorem bind {x : Act S α} {f : α → Act S β} (hx : x.Keeps P) (hf : ∀ a, (f a).Keeps P) :
    (x >>= f).Keeps P := by
  intro s hs
  have h := hx s hs
  rcases hr : x s with ⟨e | a, t⟩ <;> rw [hr] at h
  · rwa [Act.bind_error hr]
  · rw [Act.bind_ok hr]
    exact hf a t h

theorem attempt {x : Act S α} (hx : x.Keeps P) : x.attempt.Keeps P := hx

end Act.Keeps

namespace Docker.Engine

variable (ts : Tools σ) (d : Engine) (scope : Scope)

def listed : Except Failure String → List String
  | .ok listing => (outputLines listing).map String.ofList
  | .error _ => []

end Docker.Engine

namespace Kind.Engine

variable (ts : Tools σ) (k : Engine) (scope : Scope)

/-- The stages of creating a scope. Each is told of the world that the one before it has left,
whatever came of that one. -/
structure Stages (σ : Type) where
  listing : Except Failure Bool × World σ
  writing : Except Failure Unit × World σ
  creating : Except Failure Unit × World σ
  locating : Except Failure String × World σ

def disposed (listing : Except Failure Bool × World σ) : World σ :=
  if listing.1.toOption = some true then k.deleteCluster ts scope listing.2 else listing.2

def Stages.conclude (s : Stages σ) : Except Failure Unit × World σ :=
  match s.listing.1, s.writing.1, s.creating.1, s.locating.1 with
  | .error e, _, _, _ => (.error e, s.listing.2)
  | .ok _, .error e, _, _ => (.error e, s.writing.2)
  | .ok _, .ok (), .error e, _ => (.error e, s.creating.2)
  | .ok _, .ok (), .ok (), .error e => (.error e, k.deleteCluster ts scope s.locating.2)
  | .ok _, .ok (), .ok (), .ok address => (.ok (), rememberCluster scope address s.locating.2)

def Stages.asked (s : Stages σ) : List Use :=
  let delete : Use := .call (k.kind.invocation (deleteArguments scope))
  .call (k.kind.invocation ["get", "clusters"]) ::
    (if s.listing.1.toOption = some true then [delete] else []) ++
    if s.listing.1.isOk && s.writing.1.isOk then
      .call (k.kind.invocation (k.createArguments scope)) ::
        if s.creating.1.isOk then
          .call ((k.kubectlFor scope).invocation addressArguments) ::
            if s.locating.1.isOk then [] else [delete]
        else []
    else []

end Kind.Engine

/-- Tools run outside of the program, and do not reach what it remembers of clusters. -/
structure Tools.Outside (ts : Tools σ) : Prop where
  run : ∀ i w, (ts.run i w).2.clusters = w.clusters
  spawn : ∀ i log w, (ts.spawn i log w).2.clusters = w.clusters
  poll : ∀ n w, (ts.poll n w).2.clusters = w.clusters
  reap : ∀ n w, (ts.reap n w).clusters = w.clusters

theorem Tools.Outside.recorded {ts : Tools σ} (h : ts.Outside) : ts.recorded.Outside where
  run i w := h.run i w.bare
  spawn i log w := h.spawn i log w.bare
  poll n w := h.poll n w.bare
  reap n w := h.reap n w.bare

namespace Kind

variable {name : String} {w w' : World σ}

section Steps

variable {ts : Tools σ} (hts : ts.Outside)

include hts

end Steps

inductive Errand where
  | create (scope : Scope)
  | destroy (scope : Scope)
  | launch (l : Launch)
  | halt (how : Halt) (d : Deployed)
  | exec (d : Deployed) (command : Command) (sinks : ExecSinks)

section Errands

variable (ts : Tools σ) (k : Engine)

def Errand.apply : Errand → World σ → World σ
  | create scope, w => (k.createScope ts scope w).2
  | destroy scope, w => k.destroyScope ts scope w
  | launch l, w => (k.launch ts l w).2
  | halt how d, w => (Engine.halt ts how d w).2
  | exec d command sinks, w => (Engine.exec ts d command sinks w).2

variable {ts} (hts : ts.Outside)

include hts

end Errands

end Kind

end Testbed
