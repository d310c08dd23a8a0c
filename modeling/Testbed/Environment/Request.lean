import Testbed.Backend

/-!
What may be asked of an environment and of the runnables in it.
-/
namespace Testbed

structure Reservation where
  name : String
  ports : Ports

def Reservation.withPort (name : String) (port : Nat) (r : Reservation) : Reservation :=
  { r with ports := r.ports.insert name port }

structure Future where
  name : String
  ports : Ports

/-- Runnables are given by their numbers. A closer has requests of its own, which it makes when
it is run. -/
inductive Request where
  | reserve (name : String)
  | settle (r : Reservation)
  | initialise (f : Future) (o : Options)
  | start (runnable : Nat)
  | halt (how : Halt) (runnable : Nat)
  | exec (runnable : Nat) (command : Command) (sinks : ExecSinks)
  | waitReady (runnable : Nat)
  | addListener (id : String)
  | addCloser (id : String) (requests : List Request)
  | close
  | drop

end Testbed
