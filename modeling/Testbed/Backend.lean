import Testbed.World

/-!
What an environment asks of the platform that runs its workloads, and of the network that
reaches them. Both may act on the world in any way and may fail at will.
-/
namespace Testbed

structure Workload (κ : Type) where
  handle : κ
  address : String
  ports : Ports

inductive Halt where
  | stop
  | kill
deriving DecidableEq

/-- The outcome of a launch; `closing` tells that the environment was closed meanwhile. -/
structure Launching (κ : Type) where
  result : Except Failure (Workload κ)
  closing : Bool

/-- The outcome of a command; `halts` are requests it made for its own runnable. -/
structure Executing where
  executed : Executed
  halts : List Halt

structure Backend (σ κ : Type) where
  title : String
  createScope : Scope → Act (World σ) Unit
  destroyScope : Scope → World σ → World σ
  internalDir : Scope → String → String
  internalAddress : Scope → String → Nat → String
  launch : Launch → World σ → Launching κ × World σ
  halt : Halt → Workload κ → Act (World σ) Unit
  exec : Workload κ → Command → ExecSinks → World σ → Executing × World σ

inductive Reply where
  | failed (cause : String)
  | answered (status : Nat) (body : String)

structure Network (σ : Type) where
  get : String → World σ → Reply × World σ
  dial : String → World σ → Except ProbeError Unit × World σ

def urlOf (scheme : Scheme) (address path : String) : String :=
  scheme.text ++ "://" ++ address ++ path

end Testbed
