import Testbed.Decimal.Read
import Testbed.Text.Quoted

/-!
How a text is written as a YAML scalar. A text with a line feed is a literal block where a block
can hold it; one that would read as another kind of value is quoted; the rest is plain where a
plain scalar can hold it, else single-quoted, and in double quotes if all else fails.
-/
namespace Testbed.Yaml

def isBreak (c : Char) : Bool :=
  c == '\n' || c == '\r' || c.toNat == 0x85 || c.toNat == 0x2028 || c.toNat == 0x2029

def isSeparator (c : Char) : Bool := c == ' ' || c == '\t' || c.toNat == 0 || isBreak c

def isShown (c : Char) : Bool :=
  let n := c.toNat
  n == 0x0A || (0x20 ≤ n && n ≤ 0x7E) || (0xA0 ≤ n && n != 0xFEFF && n != 0xFFFE && n != 0xFFFF)

def neighbours (p q : Char → Bool) : List Char → Bool
  | a :: b :: r => (p a && q b) || neighbours p q (b :: r)
  | _ => false

def isBase (base : Nat) (c : Char) : Bool :=
  let lower := c.toLower
  c.isDigit && c.toNat - 48 < base || (base == 16 && 'a' ≤ lower && lower ≤ 'f')

def baseValue (base : Nat) (s : List Char) : Nat :=
  s.foldl (fun n c =>
    base * n + (if c.isDigit then c.toNat - 48 else c.toLower.toNat - 87)) 0

def isBased (max : Nat) : List Char → Bool
  | '0' :: mark :: ds =>
    let base := match mark with
      | 'x' => 16
      | 'o' => 8
      | 'b' => 2
      | _ => 0
    base != 0 && !ds.isEmpty && ds.all (isBase base) && baseValue base ds ≤ max
  | _ => false

/-- Digits that start with a zero are no number, though a number has the same digits. -/
def isZeroLed (s : List Char) : Bool :=
  match (Decimal.splitSign s).2 with
  | '0' :: d :: r => (d :: r).all Char.isDigit
  | _ => false

def isInteger (s : List Char) : Bool :=
  match s with
  | '-' :: r => isBased (Nat.pow 2 127) r || (Decimal.readDigits r).any (· ≤ Nat.pow 2 127)
  | '+' :: r => isBased (Nat.pow 2 128 - 1) r || (Decimal.readDigits r).any (· < Nat.pow 2 128)
  | r => isBased (Nat.pow 2 128 - 1) r || (Decimal.readDigits r).any (· < Nat.pow 2 128)

def isSigned (s : List Char) : Bool := s.head? == some '-' || s.head? == some '+'

def isFloat (s : List Char) : Bool :=
  let body := if s.head? = some '+' then s.tail else s
  if s.head? = some '+' ∧ isSigned body then false
  else
    let text := String.ofList s
    String.ofList body ∈ [".inf", ".Inf", ".INF"] || text ∈ ["-.inf", "-.Inf", "-.INF"] ||
      text ∈ [".nan", ".NaN", ".NAN"] || (Decimal.readFloat body).any (·.isFinite)

def readsAsOther (s : List Char) : Bool :=
  String.ofList s ∈ ["", "~", "null", "Null", "NULL", "true", "True", "TRUE", "false", "False",
    "FALSE"] || isInteger s || isZeroLed s || isFloat s

inductive Style where
  | plain
  | single
  | double
  | literal
deriving DecidableEq

def isIndicator (c : Char) : Bool := "#,[]\x7b\x7d&*!|>'\"%@\x60".toList.contains c

def isMarkup (s : List Char) : Bool :=
  "---".toList.isPrefixOf s || "...".toList.isPrefixOf s || s.head?.any isIndicator ||
    (s.head?.any (fun c => c == '?' || c == '-') && s[1]?.all isSeparator) ||
    neighbours (· == ':') isSeparator s || s.getLast? == some ':' ||
    neighbours isSeparator (· == '#') s

def plainAllowed (s : List Char) : Bool :=
  s.all isShown && !s.any isBreak && !isMarkup s && s.head? != some ' ' &&
    s.getLast? != some ' '

def singleAllowed (s : List Char) : Bool :=
  s.all isShown && !neighbours isBreak (· == ' ') s && !neighbours (· == ' ') isBreak s

def literalAllowed (s : List Char) : Bool :=
  s.all isShown && !neighbours (· == ' ') isBreak s && s.getLast? != some ' '

def style (s : List Char) : Style :=
  if s.contains '\n' then (if literalAllowed s then .literal else .double)
  else if !readsAsOther s && plainAllowed s then .plain
  else if singleAllowed s then .single
  else .double

def pad (indent : Nat) : List Char := List.replicate indent ' '

def indented (indent : Nat) (write : Char → List Char) : Bool → List Char → List Char
  | _, [] => []
  | fresh, c :: r =>
    if isBreak c then c :: indented indent write true r
    else (if fresh then pad indent else []) ++ write c ++ indented indent write false r

def single (indent : Nat) (s : List Char) : List Char :=
  '\'' :: indented indent (fun c => if c = '\'' then ['\'', '\''] else [c]) false s ++
    (if s.getLast?.any isBreak then pad indent else []) ++ ['\'']

def hexCode (n width : Nat) : List Char := (Text.hexPadded width n).map Char.toUpper

def escaped (c : Char) : List Char :=
  match c.toNat with
  | 0x00 => ['0']
  | 0x07 => ['a']
  | 0x08 => ['b']
  | 0x09 => ['t']
  | 0x0A => ['n']
  | 0x0B => ['v']
  | 0x0C => ['f']
  | 0x0D => ['r']
  | 0x1B => ['e']
  | 0x22 => ['"']
  | 0x5C => ['\\']
  | 0x85 => ['N']
  | 0x2028 => ['L']
  | 0x2029 => ['P']
  | n =>
    if n ≤ 0xFF then 'x' :: hexCode n 2
    else if n ≤ 0xFFFF then 'u' :: hexCode n 4 else 'U' :: hexCode n 8

def double (s : List Char) : List Char :=
  let write (c : Char) : List Char :=
    if !isShown c || isBreak c || c == '"' || c == '\\' then '\\' :: escaped c else [c]
  '"' :: s.flatMap write ++ ['"']

/-- What the header of a block says of its end: one break is kept, none, or all. -/
def chomping (s : List Char) : List Char :=
  match s.reverse with
  | a :: b :: _ => if !isBreak a then ['-'] else if isBreak b then ['+'] else []
  | [a] => if isBreak a then ['+'] else ['-']
  | [] => ['-']

def literal (indent : Nat) (s : List Char) : List Char :=
  let hint := if s.head?.any fun c => c == ' ' || isBreak c then ['2'] else []
  '|' :: hint ++ chomping s ++ '\n' :: indented indent (fun c => [c]) true s

def scalar (indent : Nat) (s : List Char) : List Char :=
  match style s with
  | .plain => s
  | .single => single indent s
  | .double => double s
  | .literal => literal indent s

def scalarLine (indent : Nat) (s : List Char) : List Char :=
  scalar indent s ++
    (if style s = .literal ∧ s.getLast?.any isBreak then [] else ['\n'])

end Testbed.Yaml
