import Testbed.Options

/-!
Values that others attach to a runnable, at most one of each type.
-/
namespace Testbed

structure Target where
  port : String
  path : String
  scheme : Scheme
deriving DecidableEq

def Target.ofPort (port : String) : Target := ⟨port, "/metrics", .http⟩

inductive Tag where
  | text (s : String)
  | int (i : Int)
  | unit
  | target (t : Target)
deriving DecidableEq

inductive TagType where
  | text
  | int
  | unit
  | target
deriving DecidableEq

def Tag.type : Tag → TagType
  | text _ => .text
  | int _ => .int
  | unit => .unit
  | target _ => .target

structure Tags where
  values : List Tag

namespace Tags

def empty : Tags := ⟨[]⟩

def get? (t : TagType) (tags : Tags) : Option Tag := tags.values.find? fun v => v.type = t

def contains (t : TagType) (tags : Tags) : Bool := (tags.get? t).isSome

def remove (t : TagType) (tags : Tags) : Tags := ⟨tags.values.filter fun v => v.type ≠ t⟩

def insert (v : Tag) (tags : Tags) : Tags := ⟨(tags.remove v.type).values ++ [v]⟩

def size (tags : Tags) : Nat := tags.values.length

def isEmpty (tags : Tags) : Bool := tags.values.isEmpty

def text (tags : Tags) : String := "Extensions \x7b len: " ++ Decimal.text tags.size ++ " \x7d"

@[simp] theorem get?_remove (t : TagType) (tags : Tags) : (tags.remove t).get? t = none := by
  simp [get?, remove]

@[simp] theorem get?_insert (v : Tag) (tags : Tags) : (tags.insert v).get? v.type = some v := by
  have h : (tags.remove v.type).values.find? (fun w => w.type = v.type) = none :=
    get?_remove v.type tags
  simp [get?, insert, h]

end Tags

end Testbed
