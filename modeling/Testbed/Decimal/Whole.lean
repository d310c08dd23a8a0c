/-!
Whole numbers in base ten: writing, and reading with a bound. A numeral may carry a plus
sign, a signed one either sign; leading zeros are free.
-/
namespace Testbed.Decimal

def digitChar (n : Nat) : Char := Char.ofNat (48 + n)

def digits (n : Nat) : List Char :=
  if n < 10 then [digitChar n] else digits (n / 10) ++ [digitChar (n % 10)]

def text (n : Nat) : String := String.ofList (digits n)

def textInt (i : Int) : String :=
  if i < 0 then "-" ++ text i.natAbs else text i.natAbs

def ofDigits (s : List Char) : Nat := s.foldl (fun n c => 10 * n + (c.toNat - 48)) 0

def readDigits (s : List Char) : Option Nat :=
  if s ≠ [] ∧ s.all Char.isDigit then some (ofDigits s) else none

def readUpTo (max : Nat) (s : List Char) : Option Nat :=
  let body := match s with
    | '+' :: r => r
    | r => r
  (readDigits body).filter (· ≤ max)

def splitSign : List Char → Bool × List Char
  | '-' :: r => (true, r)
  | '+' :: r => (false, r)
  | r => (false, r)

def inInt64 (i : Int) : Bool := -0x8000_0000_0000_0000 ≤ i && i < 0x8000_0000_0000_0000

def scanInt64 (s : List Char) : Option (Int × List Char) :=
  let (negative, body) := splitSign s
  let run := body.takeWhile Char.isDigit
  let value : Int := if negative then -(ofDigits run : Int) else ofDigits run
  if run ≠ [] ∧ inInt64 value then some (value, body.dropWhile Char.isDigit) else none

end Testbed.Decimal
