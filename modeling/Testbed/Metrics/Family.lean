import Testbed.Metrics.Kind
import Testbed.Table

/-!
Metric families: the series that share one name.
-/
namespace Testbed.Metrics

abbrev Labels := Table String

structure Bucket where
  bound : Float
  count : Float

structure Quantile where
  rank : Float
  value : Float

/-- Buckets and quantiles stand in document order. -/
inductive Value where
  | simple (x : Float)
  | histogram (sum count : Float) (buckets : List Bucket)
  | summary (sum count : Float) (quantiles : List Quantile)

/-- The sample itself, or the sum of observations. -/
def Value.scalar : Value → Float
  | simple x => x
  | histogram sum _ _ => sum
  | summary sum _ _ => sum

def Value.observations : Value → Option Float
  | simple _ => none
  | histogram _ count _ => some count
  | summary _ count _ => some count

/-- Labels leave out the bound of a bucket and the rank of a quantile. -/
structure Series where
  labels : Labels
  value : Value
  timestamp : Option Int

def Series.label (s : Series) (name : String) : String := (s.labels.get? name).getD ""

structure Family where
  help : Option String
  kind : Kind
  series : List Series

abbrev Families := Table Family

end Testbed.Metrics
