import Testbed.Json.Basic

/-!
Reading JSON. Blanks are the space, the tab, the line feed and the carriage return; numbers
have no leading zeros; a string holds no control characters.
-/
namespace Testbed.Json

def isBlank (c : Char) : Bool := c == ' ' || c == '\n' || c == '\t' || c == '\r'

def skip (s : List Char) : List Char := s.dropWhile isBlank

def scanWord (word : String) (s : List Char) : Option (List Char) :=
  if word.toList.isPrefixOf s then some (s.drop word.length) else none

def scanWhole : List Char → Option (List Char × List Char)
  | '0' :: r => if r.head?.any Char.isDigit then none else some (['0'], r)
  | s =>
    let ds := s.takeWhile Char.isDigit
    if ds = [] then none else some (ds, s.dropWhile Char.isDigit)

def scanFraction : List Char → Option (List Char × List Char)
  | '.' :: r =>
    let ds := r.takeWhile Char.isDigit
    if ds = [] then none else some (ds, r.dropWhile Char.isDigit)
  | s => some ([], s)

def scanExponent : List Char → Option (Option Exponent × List Char)
  | [] => some (none, [])
  | c :: r =>
    if c = 'e' ∨ c = 'E' then
      let (sign, body) := match r with
        | '-' :: r => (some '-', r)
        | '+' :: r => (some '+', r)
        | r => (none, r)
      let ds := body.takeWhile Char.isDigit
      if ds = [] then none else some (some ⟨sign, ds⟩, body.dropWhile Char.isDigit)
    else some (none, c :: r)

def scanNumber (s : List Char) : Option (Numeral × List Char) := do
  let (negative, s) := match s with
    | '-' :: r => (true, r)
    | r => (false, r)
  let (whole, s) ← scanWhole s
  let (fraction, s) ← scanFraction s
  let (exponent, s) ← scanExponent s
  return (⟨negative, whole, fraction, exponent⟩, s)

def hexValue? (c : Char) : Option Nat :=
  if c.isDigit then some (c.toNat - 48)
  else if 'a' ≤ c ∧ c ≤ 'f' then some (c.toNat - 87)
  else if 'A' ≤ c ∧ c ≤ 'F' then some (c.toNat - 55)
  else none

def hexUnit? (a b c d : Char) : Option Nat := do
  return 4096 * (← hexValue? a) + 256 * (← hexValue? b) + 16 * (← hexValue? c) + (← hexValue? d)

def shortEscape? : Char → Option Char
  | '"' => some '"'
  | '\\' => some '\\'
  | '/' => some '/'
  | 'b' => some '\x08'
  | 'f' => some '\x0c'
  | 'n' => some '\n'
  | 'r' => some '\r'
  | 't' => some '\t'
  | _ => none

inductive StringUnit where
  | char (c : Char)
  | half (n : Nat)

def unitOf (n : Nat) : StringUnit :=
  if 0xd800 ≤ n ∧ n < 0xe000 then .half n else .char (Char.ofNat n)

def scanUnits : List Char → Option (List StringUnit × List Char)
  | '"' :: r => some ([], r)
  | '\\' :: 'u' :: a :: b :: c :: d :: r => do
    let n ← hexUnit? a b c d
    let (us, rest) ← scanUnits r
    return (unitOf n :: us, rest)
  | '\\' :: c :: r => do
    let e ← shortEscape? c
    let (us, rest) ← scanUnits r
    return (.char e :: us, rest)
  | c :: r =>
    if c.toNat < 32 then none
    else do
      let (us, rest) ← scanUnits r
      return (.char c :: us, rest)
  | [] => none

/-- Joins pairs of halves; a half alone makes the string no text. -/
def joinUnits : List StringUnit → Option (List Char)
  | [] => some []
  | .char c :: r => (joinUnits r).map (c :: ·)
  | .half a :: .half b :: r =>
    if a < 0xdc00 ∧ 0xdc00 ≤ b then
      (joinUnits r).map (Char.ofNat (0x10000 + (a - 0xd800) * 1024 + (b - 0xdc00)) :: ·)
    else none
  | .half _ :: _ => none

def scanString (s : List Char) : Option (Option String × List Char) :=
  (scanUnits s).map fun p => ((joinUnits p.1).map String.ofList, p.2)

mutual

def scanValue : Nat → List Char → Option (Json × List Char)
  | 0, _ => none
  | fuel + 1, s =>
    match skip s with
    | 'n' :: r => (scanWord "ull" r).map fun r => (null, r)
    | 't' :: r => (scanWord "rue" r).map fun r => (bool true, r)
    | 'f' :: r => (scanWord "alse" r).map fun r => (bool false, r)
    | '"' :: r => (scanString r).map fun p => (string p.1, p.2)
    | '[' :: r =>
      match skip r with
      | ']' :: r => some (array [], r)
      | r => (scanItems fuel r).map fun p => (array p.1, p.2)
    | '\x7b' :: r =>
      match skip r with
      | '\x7d' :: r => some (object [], r)
      | r => (scanMembers fuel r).map fun p => (object p.1, p.2)
    | s => (scanNumber s).map fun p => (number p.1, p.2)

def scanItems : Nat → List Char → Option (List Json × List Char)
  | 0, _ => none
  | fuel + 1, s => do
    let (v, s) ← scanValue fuel s
    match skip s with
    | ',' :: r =>
      let (vs, rest) ← scanItems fuel r
      return (v :: vs, rest)
    | ']' :: r => return ([v], r)
    | _ => none

def scanMembers : Nat → List Char → Option (List (Option String × Json) × List Char)
  | 0, _ => none
  | fuel + 1, s =>
    match skip s with
    | '"' :: s => do
      let (k, s) ← scanString s
      match skip s with
      | ':' :: s =>
        let (v, s) ← scanValue fuel s
        match skip s with
        | ',' :: r =>
          let (ms, rest) ← scanMembers fuel r
          return ((k, v) :: ms, rest)
        | '\x7d' :: r => return ([(k, v)], r)
        | _ => none
      | _ => none
    | _ => none

end

def read (s : String) : Option Json :=
  match scanValue (s.toList.length + 1) s.toList with
  | some (v, rest) => if skip rest = [] then some v else none
  | none => none

def ofFloat (x : Float) : Json :=
  match scanNumber (Decimal.Layout.json.write x).toList with
  | some (n, []) => number n
  | _ => null

end Testbed.Json
