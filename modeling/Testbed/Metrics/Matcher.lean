import Testbed.Failure
import Testbed.Metrics.Family

/-!
Matchers on one label of a series. A pattern has to match the whole value.
-/
namespace Testbed.Metrics

inductive Comparison where
  | equal
  | notEqual
  | pattern
  | notPattern
deriving DecidableEq

def Comparison.symbol : Comparison → String
  | equal => "="
  | notEqual => "!="
  | pattern => "=~"
  | notPattern => "!~"

def Comparison.ofSymbol? : String → Option Comparison
  | "=" => some equal
  | "!=" => some notEqual
  | "=~" => some pattern
  | "!~" => some notPattern
  | _ => none

theorem Comparison.ofSymbol?_symbol (c : Comparison) : ofSymbol? c.symbol = some c := by
  cases c <;> rfl

def Comparison.usesPattern : Comparison → Bool
  | pattern | notPattern => true
  | _ => false

structure Matcher where
  label : String
  comparison : Comparison
  value : String
  compiled : Option Pattern

namespace Matcher

def text (label : String) (comparison : Comparison) (value : String) : String :=
  label ++ comparison.symbol ++ Text.quoted value

def anchored (pattern : String) : String := "^(?:" ++ pattern ++ ")$"

def make (d : Pattern.Dialect) (comparison : Comparison) (label value : String) :
    Except Failure Matcher :=
  if comparison.usesPattern then
    match Pattern.ofString d (anchored value) with
    | .ok p => .ok ⟨label, comparison, value, some p⟩
    | .error e => .error (.config (.badMatcher (text label comparison value) e))
  else .ok ⟨label, comparison, value, none⟩

def accepts (m : Matcher) (value : String) : Bool :=
  match m.comparison with
  | .equal => value = m.value
  | .notEqual => value ≠ m.value
  | .pattern => m.compiled.any (·.found value)
  | .notPattern => m.compiled.any fun p => !p.found value

/-- A series without the label is matched as if the label were empty. -/
def selects (m : Matcher) (s : Series) : Bool := m.accepts (s.label m.label)

def same (a b : Matcher) : Bool :=
  a.label = b.label && a.comparison = b.comparison && a.value = b.value

end Matcher

end Testbed.Metrics
