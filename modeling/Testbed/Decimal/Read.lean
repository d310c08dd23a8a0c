import Testbed.Decimal.Whole

/-!
Reading a decimal as the nearest double. The grammar: an optional sign, then `inf`,
`infinity` or `nan` in any case, or digits with at most one point and at least one digit,
and an optional exponent with at least one digit.
-/
namespace Testbed.Decimal

def infinity : Float := 1.0 / 0.0

def notANumber : Float := 0.0 / 0.0

/-- The double nearest to `m * 10 ^ e`. Far from the range of doubles the answer needs no
powers: a value of more than 310 digits is infinite, one below `10 ^ -330` is zero. -/
def nearest (m : Nat) (e : Int) : Float :=
  let magnitude : Int := (digits m).length + e
  if m = 0 then 0.0
  else if 310 < magnitude then infinity
  else if magnitude < -330 then 0.0
  else Float.ofScientific m (decide (e < 0)) e.natAbs

def readExponent : List Char → Option Int
  | [] => some 0
  | c :: r =>
    if c = 'e' ∨ c = 'E' then
      let (negative, body) := splitSign r
      (readDigits body).map fun n => if negative then -(n : Int) else n
    else none

def readPositional (s : List Char) : Option Float :=
  let whole := s.takeWhile Char.isDigit
  let afterWhole := s.dropWhile Char.isDigit
  let tail := match afterWhole with
    | '.' :: r => r
    | r => r
  let pointed := afterWhole.head? = some '.'
  let fraction := if pointed then tail.takeWhile Char.isDigit else []
  let rest := if pointed then tail.dropWhile Char.isDigit else afterWhole
  if whole = [] ∧ fraction = [] then none
  else (readExponent rest).map fun e =>
    nearest (ofDigits (whole ++ fraction)) (e - fraction.length)

def readUnsignedFloat (s : List Char) : Option Float :=
  let lower := s.map Char.toLower
  if lower = "inf".toList ∨ lower = "infinity".toList then some infinity
  else if lower = "nan".toList then some notANumber
  else readPositional s

def readFloat (s : List Char) : Option Float :=
  let (negative, body) := splitSign s
  (readUnsignedFloat body).map fun x => if negative then -x else x

end Testbed.Decimal
