import Testbed.Yaml.Scalar

/-!
YAML documents in block style. Nested records are indented by two; the items of a list in a
record start in the column of its key.
-/
namespace Testbed

inductive Yaml where
  | text (s : String)
  | number (n : Nat)
  | flag (b : Bool)
  | list (items : List Yaml)
  | record (fields : List (String × Yaml))

namespace Yaml

def ofNat (n : Nat) : Yaml := number n

def texts (items : List String) : Yaml := list (items.map text)

def optional (key : String) (v : Option Yaml) : List (String × Yaml) :=
  match v with
  | none => []
  | some v => [(key, v)]

def unlessEmpty (key : String) (items : List Yaml) : List (String × Yaml) :=
  if items.isEmpty then [] else [(key, list items)]

def ifSet (key : String) (b : Bool) : List (String × Yaml) :=
  if b then [(key, flag true)] else []

mutual

def afterKey (indent : Nat) : Yaml → List Char
  | text s => ' ' :: scalarLine (indent + 2) s.toList
  | number n => ' ' :: Decimal.digits n ++ ['\n']
  | flag b => ' ' :: (if b then "true" else "false").toList ++ ['\n']
  | list [] => " []\n".toList
  | list items => '\n' :: itemLines indent items
  | record [] => " \x7b\x7d\n".toList
  | record fields => '\n' :: fieldLines (indent + 2) fields

/-- What follows the dash of an item at `indent`. A nested record starts on the same line. -/
def afterDash (indent : Nat) : Yaml → List Char
  | text s => ' ' :: scalarLine (indent + 2) s.toList
  | number n => ' ' :: Decimal.digits n ++ ['\n']
  | flag b => ' ' :: (if b then "true" else "false").toList ++ ['\n']
  | list [] => " []\n".toList
  | list items => (itemLines (indent + 2) items).drop (indent + 1)
  | record [] => " \x7b\x7d\n".toList
  | record fields => (fieldLines (indent + 2) fields).drop (indent + 1)

def itemLines (indent : Nat) : List Yaml → List Char
  | [] => []
  | v :: r => pad indent ++ '-' :: afterDash indent v ++ itemLines indent r

def fieldLines (indent : Nat) : List (String × Yaml) → List Char
  | [] => []
  | (k, v) :: r => pad indent ++ k.toList ++ ':' :: afterKey indent v ++ fieldLines indent r

end

def document (fields : List (String × Yaml)) : String := String.ofList (fieldLines 0 fields)

end Yaml

end Testbed
