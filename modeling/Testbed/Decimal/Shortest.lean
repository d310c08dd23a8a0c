import Testbed.Decimal.Whole

/-!
The fewest decimal digits that read back as a given double, and their layouts.

A finite double is `m * 2 ^ q`. The reals that round to it form an interval around it,
closed iff `m` is even. For each number of digits the two neighbours on that decimal grid are
tried; the first grid with a hit wins, of two hits the nearer one.
-/
namespace Testbed.Decimal

structure Ratio where
  num : Nat
  den : Nat

def Ratio.scaled (n : Nat) (b d : Int) : Ratio :=
  ⟨n * Nat.pow 2 b.toNat * Nat.pow 10 d.toNat, Nat.pow 2 (-b).toNat * Nat.pow 10 (-d).toNat⟩

def Ratio.le (x y : Ratio) : Bool := x.num * y.den ≤ y.num * x.den

def Ratio.lt (x y : Ratio) : Bool := x.num * y.den < y.num * x.den

/-- A positive double, with the interval of reals that round to it in quarter units:
`4 * m - below` to `4 * m + 2`, times `2 ^ (q - 2)`. -/
structure Binary where
  m : Nat
  q : Int
  below : Nat

def fractions : Nat := 0x10_0000_0000_0000

def Binary.ofBits (bits : Nat) : Binary :=
  let e : Nat := bits / fractions % 2048
  let f : Nat := bits % fractions
  if e = 0 then ⟨f, -1074, 2⟩
  else ⟨fractions + f, (e : Int) - 1075, if f = 0 ∧ 1 < e then 1 else 2⟩

def Binary.contains (x : Binary) (c : Nat) (k : Int) : Bool :=
  let p := Ratio.scaled c 0 k
  let low := Ratio.scaled (4 * x.m - x.below) (x.q - 2) 0
  let high := Ratio.scaled (4 * x.m + 2) (x.q - 2) 0
  if x.m % 2 = 0 then low.le p && p.le high else low.lt p && p.lt high

def Binary.magnitude (x : Binary) : Int :=
  let guess := ((x.m.log2 + x.q) * 30103).fdiv 100000
  let value := Ratio.scaled x.m x.q 0
  if value.lt (Ratio.scaled 1 0 guess) then guess - 1
  else if (Ratio.scaled 1 0 (guess + 1)).le value then guess + 1
  else guess

/-- The point of the grid of step `10 ^ k` that is nearest and reads back; a point halfway
between two neighbours goes up. -/
def Binary.onGrid (x : Binary) (k : Int) : Option Nat :=
  let v := Ratio.scaled x.m x.q (-k)
  let down := v.num / v.den
  let upIsNearer := v.den ≤ 2 * (v.num % v.den)
  match x.contains down k, x.contains (down + 1) k with
  | false, false => none
  | true, false => some down
  | false, true => some (down + 1)
  | true, true => some (if upIsNearer then down + 1 else down)

/-- A decimal `c * 10 ^ k`; in what `shortest` returns, `c` does not end in zero. -/
structure Digits where
  c : Nat
  k : Int

def Digits.trim : Nat → Digits → Digits
  | 0, d => d
  | fuel + 1, d => if d.c % 10 = 0 ∧ d.c ≠ 0 then Digits.trim fuel ⟨d.c / 10, d.k + 1⟩ else d

/-- Seventeen digits always suffice, so the last grid's lower neighbour is never used. -/
def Binary.shortest (x : Binary) : Digits :=
  let top := x.magnitude
  let hit := (List.range 17).findSome? fun n : Nat =>
    (x.onGrid (top - n)).map fun c => Digits.trim 20 ⟨c, top - n⟩
  hit.getD ⟨x.m, x.q⟩

/-- How a double is written. Exponents `e` of the first digit with `low ≤ e < high` are
positional; `point` asks for a fraction even where it is zero. An exponent has at least `width`
digits, and a plus sign if `plus` is set. -/
structure Layout where
  low : Option Int
  high : Option Int
  point : Bool
  plus : Bool
  width : Nat
  infinite : String
  undefined : String

def Layout.positional (l : Layout) (e : Int) : Bool :=
  l.low.all (· ≤ e) && l.high.all (e < ·)

def zeros (n : Nat) : List Char := List.replicate n '0'

def Layout.place (l : Layout) (ds : List Char) (e : Int) : List Char :=
  if e < 0 then ['0', '.'] ++ zeros (-e - 1).toNat ++ ds
  else
    let n := e.toNat + 1
    let fraction := ds.drop n
    let whole := ds.take n ++ zeros (n - ds.length)
    if fraction ≠ [] then whole ++ '.' :: fraction
    else if l.point then whole ++ ['.', '0'] else whole

def Layout.exponent (l : Layout) (e : Int) : List Char :=
  let ds := digits e.natAbs
  (if e < 0 then ['-'] else if l.plus then ['+'] else []) ++ zeros (l.width - ds.length) ++ ds

def Layout.scientific (l : Layout) (ds : List Char) (e : Int) : List Char :=
  let lead := ds.take 1
  let fraction := ds.drop 1
  let mantissa := if fraction = [] then lead else lead ++ '.' :: fraction
  mantissa ++ 'e' :: l.exponent e

def Layout.magnitude (l : Layout) (bits : Nat) : List Char :=
  if bits = 0 then (if l.point then ['0', '.', '0'] else ['0'])
  else
    let d := (Binary.ofBits bits).shortest
    let ds := digits d.c
    let e := d.k + ds.length - 1
    if l.positional e then l.place ds e else l.scientific ds e

def Layout.write (l : Layout) (x : Float) : String :=
  let bits := x.toBits.toNat
  let size := bits % 0x8000_0000_0000_0000
  let sign := if bits / 0x8000_0000_0000_0000 = 1 then "-" else ""
  if x.isNaN then l.undefined
  else if x.isInf then sign ++ l.infinite
  else sign ++ String.ofList (l.magnitude size)

def Layout.plain : Layout := ⟨none, none, false, false, 1, "inf", "NaN"⟩

def Layout.detailed : Layout := ⟨some (-4), some 16, true, false, 1, "inf", "NaN"⟩

/-- A number in a JSON document: positional from `10 ^ -5` to below `10 ^ 16`, with signed
exponents of two digits or more. JSON has no infinity and no undefined value. -/
def Layout.json : Layout := ⟨some (-5), some 16, true, true, 2, "null", "null"⟩

def plain (x : Float) : String := Layout.plain.write x

def detailed (x : Float) : String := Layout.detailed.write x

end Testbed.Decimal
