import Testbed.Decimal.Shortest
import Testbed.Text.Quoted

/-!
JSON values as they are written. Members of an object keep their order and may repeat; a
string is `none` if its escapes name half of a surrogate pair, which no text can hold.
-/
namespace Testbed

structure Exponent where
  sign : Option Char
  digits : List Char

structure Numeral where
  negative : Bool
  whole : List Char
  fraction : List Char
  exponent : Option Exponent

inductive Json where
  | null
  | bool (b : Bool)
  | number (n : Numeral)
  | string (s : Option String)
  | array (items : List Json)
  | object (members : List (Option String × Json))

namespace Numeral

def ofNat (n : Nat) : Numeral := ⟨false, Decimal.digits n, [], none⟩

def chars (n : Numeral) : List Char :=
  (if n.negative then ['-'] else []) ++ n.whole ++
    (if n.fraction = [] then [] else '.' :: n.fraction) ++
    match n.exponent with
    | none => []
    | some e => 'e' :: e.sign.toList ++ e.digits

def toNat? (n : Numeral) : Option Nat :=
  if n.negative ∨ n.fraction ≠ [] ∨ n.exponent.isSome then none else some (Decimal.ofDigits n.whole)

/-- The leading digits that fit 64 bits, as a number, and how many digits follow them. -/
def significand (start : Nat) : List Char → Nat × List Char
  | [] => (start, [])
  | c :: r =>
    let next := 10 * start + (c.toNat - 48)
    if next < 0x1_0000_0000_0000_0000 then significand next r else (start, c :: r)

def powerOfTen (e : Nat) : Float := Float.ofScientific 1 false e

def scaled (f : Float) (e : Int) : Nat → Option Float
  | 0 => some f
  | fuel + 1 =>
    if e.natAbs ≤ 308 then
      let g := if 0 ≤ e then f * powerOfTen e.natAbs else f / powerOfTen e.natAbs
      if g.isInf then none else some g
    else if f == 0.0 then some f
    else if 0 ≤ e then none
    else scaled (f / powerOfTen 308) (e + 308) fuel

/-- The value as a double: a 64-bit significand, scaled once. Digits past the significand are
dropped, and those before the point count as zeros. -/
def toFloat? (n : Numeral) : Option Float :=
  let (whole, dropped) := significand 0 n.whole
  let (m, unused) := significand whole n.fraction
  let f := m.toUInt64.toFloat
  let shift : Int := (dropped.length : Int) - (n.fraction.length - unused.length : Nat)
  let magnitude := match n.exponent with
    | none => scaled f shift 8
    | some ⟨sign, ds⟩ =>
      let negative := sign = some '-'
      let e := Decimal.ofDigits ds
      if e < 0x8000_0000 then scaled f (if negative then shift - e else shift + e) 8
      else if negative ∨ m = 0 then some 0.0 else none
  magnitude.map fun x => if n.negative then -x else x

end Numeral

namespace Json

def text (s : String) : Json := string (some s)

def ofNat (n : Nat) : Json := number (Numeral.ofNat n)

def ofOption {α : Type} (f : α → Json) (o : Option α) : Json := (o.map f).getD null

def member (name : String) (v : Json) : Option String × Json := (some name, v)

def record (members : List (String × Json)) : Json :=
  object (members.map fun m => (some m.1, m.2))

def escape (c : Char) : List Char :=
  match c with
  | '"' => ['\\', '"']
  | '\\' => ['\\', '\\']
  | '\n' => ['\\', 'n']
  | '\r' => ['\\', 'r']
  | '\t' => ['\\', 't']
  | '\x08' => ['\\', 'b']
  | '\x0c' => ['\\', 'f']
  | c =>
    if c.toNat < 32 then
      ['\\', 'u', '0', '0', Text.hexDigit (c.toNat / 16), Text.hexDigit (c.toNat % 16)]
    else [c]

def quote (s : String) : List Char := '"' :: (s.toList.flatMap escape ++ ['"'])

mutual

def chars : Json → List Char
  | null => "null".toList
  | bool true => "true".toList
  | bool false => "false".toList
  | number n => n.chars
  | string s => quote (s.getD "")
  | array items => '[' :: (itemChars items ++ [']'])
  | object members => '\x7b' :: (memberChars members ++ ['\x7d'])

def itemChars : List Json → List Char
  | [] => []
  | [v] => v.chars
  | v :: r => v.chars ++ ',' :: itemChars r

def memberChars : List (Option String × Json) → List Char
  | [] => []
  | [(k, v)] => quote (k.getD "") ++ ':' :: v.chars
  | (k, v) :: r => quote (k.getD "") ++ ':' :: v.chars ++ ',' :: memberChars r

end

def render (v : Json) : String := String.ofList v.chars

end Json

end Testbed
