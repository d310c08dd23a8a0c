/-!
Looking for a text within another.
-/
namespace Testbed.Text

def isWithin (needle : List Char) : List Char → Bool
  | [] => needle.isEmpty
  | c :: r => needle.isPrefixOf (c :: r) || isWithin needle r

theorem isWithin_iff {needle s : List Char} : isWithin needle s = true ↔ needle <:+: s := by
  induction s with
  | nil => simp [isWithin]
  | cons c r ih => simp [isWithin, ih, List.infix_cons_iff]

end Testbed.Text
