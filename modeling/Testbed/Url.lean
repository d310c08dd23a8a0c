import Testbed.Decimal.Whole
import Testbed.Text.Blank
import Testbed.Text.Quoted
import Testbed.Text.Utf8

/-!
HTTP URLs in normal form: host in lower case, no default port, no dot segments, a path that is
not empty, and escapes for what a URL cannot show.
-/
namespace Testbed

structure Url where
  scheme : String
  host : String
  port : Option Nat
  path : List Char
  query : Option (List Char)
  fragment : Option (List Char)

namespace Url

def defaultPort (scheme : String) : Nat := if scheme = "https" then 443 else 80

def effectivePort (u : Url) : Nat := u.port.getD (defaultPort u.scheme)

def escape (b : UInt8) : List Char :=
  ['%', (Text.hexDigit (b.toNat / 16)).toUpper, (Text.hexDigit (b.toNat % 16)).toUpper]

def encode (also : String) (s : List Char) : List Char :=
  s.flatMap fun c =>
    if c.toNat ≤ 0x1F ∨ 0x7E < c.toNat ∨ also.toList.contains c then
      (Text.bytesOf c.toString).flatMap escape
    else [c]

def isSlash (c : Char) : Bool := c == '/' || c == '\\'

def isAuthorityEnd (c : Char) : Bool := isSlash c || c == '?' || c == '#'

def segments (s : List Char) : List (List Char) :=
  Text.cut '/' (s.map fun c => if isSlash c then '/' else c)

def dots (s : List Char) : String :=
  let s := (String.ofList (s.map Char.toLower))
  String.ofList (s.replace "%2e" ".").toList

/-- Segments in reverse without dots; a dot at the end leaves the directory. -/
def resolve (done : List (List Char)) : List (List Char) → List (List Char)
  | [] => done
  | [last] =>
    match dots last with
    | "." => [] :: done
    | ".." => [] :: done.tail
    | _ => last :: done
  | s :: r =>
    match dots s with
    | "." => resolve done r
    | ".." => resolve done.tail r
    | _ => resolve (s :: done) r

def normalPath (s : List Char) : List Char :=
  let body := match s with
    | c :: r => if isSlash c then r else s
    | [] => []
  let parts := (resolve [] (segments body)).reverse
  parts.flatMap fun p => '/' :: encode " \"#<>?\x60\x7b\x7d" p

def hostNumber (s : List Char) : Option Nat :=
  let value (base : Nat) (ds : List Char) : Option Nat :=
    ds.foldlM (fun n c =>
      let d := if c.isDigit then c.toNat - 48
        else if 'a' ≤ c ∧ c ≤ 'f' then c.toNat - 87 else base
      if d < base then some (base * n + d) else none) 0
  match s with
  | [] => none
  | '0' :: 'x' :: r => value 16 r
  | '0' :: r => value 8 r
  | r => value 10 r

def dotted (n : Nat) : String :=
  ".".intercalate ([n / 0x100_0000, n / 0x1_0000 % 256, n / 256 % 256, n % 256].map Decimal.text)

/-- A numeric host; its last part fills the places that are left. -/
def numericHost (parts : List (List Char)) : Option String := do
  let parts := if parts.getLast? = some [] then parts.dropLast else parts
  let ns ← parts.mapM hostNumber
  let last ← ns.getLast?
  let init := ns.dropLast
  if 4 < ns.length ∨ init.any (255 < ·) ∨ Nat.pow 256 (5 - ns.length) ≤ last then none
  else some (dotted ((init.zipIdx.foldl (fun t p => t + p.1 * Nat.pow 256 (3 - p.2)) 0) + last))

def endsInNumber (parts : List (List Char)) : Bool :=
  let parts := if parts.getLast? = some [] then parts.dropLast else parts
  match parts.getLast? with
  | some p => (p ≠ [] && p.all Char.isDigit) || (hostNumber p).isSome
  | none => false

def isForbidden (c : Char) : Bool :=
  c.toNat ≤ 0x20 || c.toNat == 0x7F || " #%/:<>?@[\\]^|".toList.contains c

def host? (s : List Char) : Option String :=
  let s := s.map Char.toLower
  let parts := Text.cut '.' s
  if s = [] ∨ s.any isForbidden then none
  else if endsInNumber parts then numericHost parts
  else some (String.ofList s)

def port? (scheme : String) (s : List Char) : Option (Option Nat) :=
  if s = [] then some none
  else (Decimal.readDigits s).bind fun n =>
    if 65535 < n then none else some (if n = defaultPort scheme then none else some n)

def authority? (scheme : String) (s : List Char) : Option (String × Option Nat) :=
  let hostAndPort := (s.reverse.takeWhile (· ≠ '@')).reverse
  let bracketed := hostAndPort.head? = some '['
  let inside := hostAndPort.takeWhile (· ≠ ']')
  let host := if bracketed then inside ++ [']'] else hostAndPort.takeWhile (· ≠ ':')
  let rest := hostAndPort.drop host.length
  let shown := if bracketed then some (String.ofList (host.map Char.toLower)) else host? host
  match shown, rest with
  | none, _ => none
  | some h, [] => some (h, none)
  | some h, ':' :: p => (port? scheme p).map fun p => (h, p)
  | some _, _ => none

def isTrimmed (c : Char) : Bool := c.toNat ≤ 0x20

def clean (s : List Char) : List Char :=
  let trimmed := ((s.dropWhile isTrimmed).reverse.dropWhile isTrimmed).reverse
  trimmed.filter fun c => c != '\t' && c != '\n' && c != '\r'

def afterScheme? (scheme : String) (s : List Char) : Option (List Char) :=
  let mark := (scheme ++ ":").toList
  if mark.isPrefixOf (s.map Char.toLower) then some ((s.drop mark.length).dropWhile isSlash)
  else none

def ofParts? (scheme : String) (s : List Char) : Option Url := do
  let (host, port) ← authority? scheme (s.takeWhile (!isAuthorityEnd ·))
  let rest := s.dropWhile (!isAuthorityEnd ·)
  let beforeFragment := rest.takeWhile (· ≠ '#')
  let fragment := (rest.dropWhile (· ≠ '#')).tail?
  let path := beforeFragment.takeWhile (· ≠ '?')
  let query := (beforeFragment.dropWhile (· ≠ '?')).tail?
  return ⟨scheme, host, port, normalPath path, query.map (encode " \"#<>'"),
    fragment.map (encode " \"<>\x60")⟩

def ofString? (s : String) : Option Url :=
  let s := clean s.toList
  match afterScheme? "http" s, afterScheme? "https" s with
  | some r, _ => ofParts? "http" r
  | none, some r => ofParts? "https" r
  | none, none => none

def text (u : Url) : String :=
  let port := match u.port with
    | some n => ":" ++ Decimal.text n
    | none => ""
  let after (mark : Char) (o : Option (List Char)) : List Char :=
    match o with
    | some s => mark :: s
    | none => []
  u.scheme ++ "://" ++ u.host ++ port ++
    String.ofList (u.path ++ after '?' u.query ++ after '#' u.fragment)

end Url

end Testbed
