/-!
The kinds of metric families a document may declare.
-/
namespace Testbed.Metrics

inductive Kind where
  | counter
  | gauge
  | histogram
  | summary
  | untyped
deriving DecidableEq, Repr

namespace Kind

def keyword : Kind → String
  | counter => "counter"
  | gauge => "gauge"
  | histogram => "histogram"
  | summary => "summary"
  | untyped => "untyped"

/-- Besides its keyword, an untyped family may be declared `unknown`. -/
def ofKeyword? : String → Option Kind
  | "counter" => some counter
  | "gauge" => some gauge
  | "histogram" => some histogram
  | "summary" => some summary
  | "untyped" | "unknown" => some untyped
  | _ => none

theorem ofKeyword?_keyword (k : Kind) : ofKeyword? k.keyword = some k := by
  cases k <;> rfl

def title : Kind → String
  | counter => "Counter"
  | gauge => "Gauge"
  | histogram => "Histogram"
  | summary => "Summary"
  | untyped => "Untyped"

def isAggregate : Kind → Bool
  | histogram | summary => true
  | _ => false

end Kind

end Testbed.Metrics
