import Testbed.Metrics.Matcher
import Testbed.Policy

/-!
Which series are summed, what is taken from each, and what a wait does meanwhile.
-/
namespace Testbed.Metrics

inductive Extraction where
  | value
  | count
deriving DecidableEq

/-- What happens when a metric has no selected series: it fails, it sums to zero, or it fails
except in a wait, which tries again. -/
inductive Missing where
  | fail
  | zero
  | wait
deriving DecidableEq

structure Selection where
  matchers : List Matcher
  extraction : Extraction
  missing : Missing
  backoff : Option Policy

namespace Selection

def all : Selection := ⟨[], .value, .fail, none⟩

def waitPolicy (s : Selection) : Policy := s.backoff.getD .metrics

def selects (s : Selection) (m : Series) : Bool := s.matchers.all (·.selects m)

def extract (s : Selection) (m : Series) : Float :=
  match s.extraction with
  | .value => m.value.scalar
  | .count => m.value.observations.getD 0.0

/-- Sums run from left to right, from negative zero. -/
def total (xs : List Float) : Float := xs.foldl (· + ·) (-0.0)

def sum (s : Selection) (f : Family) : Option Float :=
  match f.series.filter s.selects with
  | [] => none
  | selected => some (total (selected.map s.extract))

end Selection

end Testbed.Metrics
