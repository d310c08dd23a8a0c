import Testbed.Metrics.Selection

/-!
Predicates over metric sums. An expectation says how many sums it needs and never judges
another number of them.
-/
namespace Testbed.Metrics

structure Expectation where
  arity : Nat
  description : String
  holds : List Float → Bool

namespace Expectation

/-- Equal, where undefined values equal each other. -/
def same (x y : Float) : Bool := x == y || (x.isNaN && y.isNaN)

def ofOne (description : String) (p : Float → Bool) : Expectation :=
  ⟨1, description, fun
    | [x] => p x
    | _ => false⟩

def ofTwo (description : String) (p : Float → Float → Bool) : Expectation :=
  ⟨2, description, fun
    | [x, y] => p x y
    | _ => false⟩

def equals (v : Float) : Expectation := ofOne ("== " ++ Decimal.plain v) (same · v)

def greater (v : Float) : Expectation := ofOne ("> " ++ Decimal.plain v) fun x => decide (v < x)

def greaterOrEqual (v : Float) : Expectation :=
  ofOne (">= " ++ Decimal.plain v) fun x => decide (v ≤ x)

def less (v : Float) : Expectation := ofOne ("< " ++ Decimal.plain v) fun x => decide (x < v)

def between (low high : Float) : Expectation :=
  ofOne ("in (" ++ Decimal.plain low ++ ", " ++ Decimal.plain high ++ ")") fun x =>
    decide (low < x) && decide (x < high)

def equalsAmongTwo : Expectation := ofTwo "first == second" same

def greaterAmongTwo : Expectation := ofTwo "first > second" fun x y => decide (y < x)

def lessAmongTwo : Expectation := ofTwo "first < second" fun x y => decide (x < y)

def sumIs (v : Float) (arity : Nat) : Expectation :=
  ⟨arity, "sum is " ++ Decimal.plain v, fun xs => Selection.total xs == v⟩

def accepts (e : Expectation) (sums : List Float) : Bool :=
  sums.length == e.arity && e.holds sums

def checkArity (e : Expectation) (names : Nat) : Except Failure Unit :=
  if names = e.arity then .ok () else .error (.config (.arity e.description e.arity names))

def debug (e : Expectation) : String :=
  "Expectation \x7b arity: " ++ Decimal.text e.arity ++ ", description: " ++
    Text.quoted e.description ++ ", .. \x7d"

end Expectation

end Testbed.Metrics
