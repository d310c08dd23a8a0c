import Testbed.Decimal.Whole

/-!
Spans of time, in whole nanoseconds below `2 ^ 64` seconds.
-/
namespace Testbed

def Span.limit : Nat := 0x1_0000_0000_0000_0000 * 1_000_000_000

structure Span where
  nanos : Nat
  nanos_lt : nanos < Span.limit
deriving DecidableEq

namespace Span

def zero : Span := ⟨0, by decide⟩

instance : Inhabited Span := ⟨zero⟩

def longest : Span := ⟨limit - 1, by decide⟩

/-- The longest span stands for anything out of range. -/
def ofNanos (n : Nat) : Span := if h : n < limit then ⟨n, h⟩ else longest

def ofMillis (n : Nat) : Span := ofNanos (n * 1_000_000)

def ofParts? (secs nanos : Nat) : Option Span :=
  if h : secs * 1_000_000_000 + nanos < limit then some ⟨secs * 1_000_000_000 + nanos, h⟩ else none

def secs (s : Span) : Nat := s.nanos / 1_000_000_000

def subsec (s : Span) : Nat := s.nanos % 1_000_000_000

def doubled (s : Span) : Span := ofNanos (2 * s.nanos)

def min (a b : Span) : Span := if b.nanos < a.nanos then b else a

def fraction (n width : Nat) : List Char :=
  let ds := Decimal.digits n
  let padded := List.replicate (width - ds.length) '0' ++ ds
  (padded.reverse.dropWhile (· == '0')).reverse

def decimal (whole part width : Nat) : String :=
  let f := if part = 0 then [] else '.' :: fraction part width
  Decimal.text whole ++ String.ofList f

/-- The largest unit in which the span is at least one, with as many places as it needs. -/
def text (s : Span) : String :=
  let n := s.nanos
  if 1_000_000_000 ≤ n then decimal (n / 1_000_000_000) (n % 1_000_000_000) 9 ++ "s"
  else if 1_000_000 ≤ n then decimal (n / 1_000_000) (n % 1_000_000) 6 ++ "ms"
  else if 1_000 ≤ n then decimal (n / 1_000) (n % 1_000) 3 ++ "µs"
  else Decimal.text n ++ "ns"

end Span

end Testbed
