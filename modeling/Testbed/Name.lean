import Testbed.Failure

/-!
Names of environments and runnables: labels of at most 63 lower case letters, digits and
hyphens, with no hyphen at either end.
-/
namespace Testbed

def isLabelChar (c : Char) : Bool := c.isLower || c.isDigit || c == '-'

def isLabel (name : String) : Bool :=
  let s := name.toList
  s.length ≤ 63 && s.all isLabelChar && s ≠ [] && s.head? ≠ some '-' && s.getLast? ≠ some '-'

def checkName (kind name : String) : Except Failure Unit :=
  if isLabel name then .ok () else .error (.config (.badName kind name))

end Testbed
