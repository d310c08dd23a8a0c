import Testbed.Text.Blank

/-!
Reading bytes as UTF-8. Bytes that start no character, and the longest start of a character
that is broken off, stand for one unreadable character each.
-/
namespace Testbed.Text

def leadWidth (b : UInt8) : Nat :=
  if b < 0x80 then 1
  else if 0xC2 ≤ b && b ≤ 0xDF then 2
  else if 0xE0 ≤ b && b ≤ 0xEF then 3
  else if 0xF0 ≤ b && b ≤ 0xF4 then 4
  else 0

def isTail (b : UInt8) : Bool := 0x80 ≤ b && b ≤ 0xBF

/-- The second bytes that leave out overlong forms, surrogates and what no code point has. -/
def isSecond (lead b : UInt8) : Bool :=
  if lead = 0xE0 then 0xA0 ≤ b && b ≤ 0xBF
  else if lead = 0xED then 0x80 ≤ b && b ≤ 0x9F
  else if lead = 0xF0 then 0x90 ≤ b && b ≤ 0xBF
  else if lead = 0xF4 then 0x80 ≤ b && b ≤ 0x8F
  else isTail b

def tailOf (lead : UInt8) (s : List UInt8) : List UInt8 :=
  match leadWidth lead - 1, s with
  | 0, _ | _, [] => []
  | n + 1, b :: r => if isSecond lead b then b :: (r.take n).takeWhile isTail else []

def leadBits (lead : UInt8) : Nat :=
  match leadWidth lead with
  | 1 => lead.toNat
  | 2 => lead.toNat % 32
  | 3 => lead.toNat % 16
  | _ => lead.toNat % 8

def codePoint (lead : UInt8) (tail : List UInt8) : Nat :=
  tail.foldl (fun n b => 64 * n + b.toNat % 64) (leadBits lead)

def readChars : List UInt8 → List (Option Char)
  | [] => []
  | b :: r =>
    let tail := tailOf b r
    let c := if tail.length + 1 = leadWidth b then some (Char.ofNat (codePoint b tail)) else none
    c :: readChars (r.drop tail.length)
termination_by s => s.length
decreasing_by simp only [List.length_drop, List.length_cons]; omega

def readLossy (s : List UInt8) : String :=
  String.ofList ((readChars s).map (·.getD '\uFFFD'))

def readExact? (s : List UInt8) : Option String :=
  ((readChars s).mapM id).map String.ofList

def bytesOf (s : String) : List UInt8 := s.toUTF8.toList

def byteLines : List UInt8 → List (List UInt8)
  | [] => []
  | b :: r =>
    if b = 10 then [b] :: byteLines r
    else
      match byteLines r with
      | [] => [[b]]
      | l :: ls => (b :: l) :: ls

def withoutEnding (s : String) : String :=
  match s.toList.reverse with
  | '\n' :: '\r' :: r => String.ofList r.reverse
  | '\n' :: r => String.ofList r.reverse
  | _ => s

/-- The lines of a stream up to the first that is no text. -/
def streamLines (s : List UInt8) : List String :=
  (((byteLines s).map readExact?).takeWhile (·.isSome)).map fun l => withoutEnding (l.getD "")

end Testbed.Text
