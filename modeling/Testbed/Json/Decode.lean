import Testbed.Json.Reader

/-!
Reading records out of JSON values. A record is an object, or an array with its fields in
order. Unknown members of an object are skipped, a repeated field is an error.
-/
namespace Testbed.Json

def bool? : Json → Option Bool
  | bool b => some b
  | _ => none

def text? : Json → Option String
  | string s => s
  | _ => none

def upTo? (max : Nat) : Json → Option Nat
  | number n => n.toNat?.filter (· ≤ max)
  | _ => none

def float? : Json → Option Float
  | number n => n.toFloat?
  | _ => none

def items? : Json → Option (List Json)
  | array items => some items
  | _ => none

def nullable? {α : Type} (f : Json → Option α) : Json → Option (Option α)
  | null => some none
  | v => (f v).map some

/-- The fields of a record, in order. In an array only trailing fields can be missing. -/
structure Fields where
  values : List (Option Json)
  ofArray : Bool

def fields? (names : List String) (closed : Bool) : Json → Option Fields
  | array items =>
    if names.length < items.length then none
    else some ⟨items.map some ++ List.replicate (names.length - items.length) none, true⟩
  | object members =>
    let keys := members.map (·.1)
    if keys.any (·.isNone) then none
    else if closed && keys.any (fun k => !(k.any (names.contains ·))) then none
    else if names.any (fun n => 1 < keys.count (some n)) then none
    else some ⟨names.map fun n => (members.find? fun m => m.1 = some n).map (·.2), false⟩
  | _ => none

namespace Fields

variable {α : Type}

def at? (f : Fields) (i : Nat) : Option Json := (f.values[i]?).join

def required (f : Fields) (i : Nat) (read : Json → Option α) : Option α := (f.at? i).bind read

def nullable (f : Fields) (i : Nat) (read : Json → Option α) : Option (Option α) :=
  match f.at? i with
  | some v => nullable? read v
  | none => if f.ofArray then none else some none

def defaulted (f : Fields) (i : Nat) (default : α) (read : Json → Option α) : Option α :=
  match f.at? i with
  | some v => read v
  | none => some default

end Fields

/-- One of several words: a string, or an object whose only member has that name and is null. -/
def choice? {α : Type} (words : List (String × α)) : Json → Option α
  | string (some s) => (words.find? fun w => w.1 = s).map (·.2)
  | object [(some k, null)] => (words.find? fun w => w.1 = k).map (·.2)
  | _ => none

end Testbed.Json
