import Testbed.Text.Blank

/-!
Paths: texts with components between slashes. Empty components and single dots mean nothing,
except for a dot in front; a slash in front makes a path rooted.
-/
namespace Testbed.Path

def isRooted (p : String) : Bool := p.toList.head? == some '/'

/-- A rooted second path stands for itself. -/
def join (p q : String) : String :=
  if isRooted q then q
  else if p = "" ∨ p.toList.getLast? = some '/' then p ++ q
  else p ++ "/" ++ q

def pieces (p : String) : List String := Text.splitAt '/' p

def isVoid (piece : String) : Bool := piece == "" || piece == "."

def anchor (first : String) (rest : List String) : List String :=
  if first ≠ "" then [first] else if rest = [] then [] else ["/"]

def components (p : String) : List String :=
  match pieces p with
  | [] => []
  | first :: rest => anchor first rest ++ rest.filter (!isVoid ·)

def strip : List String → List String → Option (List String)
  | [], rest => some rest
  | c :: cs, rest =>
    match rest.dropWhile isVoid with
    | [] => none
    | p :: r => if p = c then strip cs r else none

def trimPieces (ps : List String) : List String := (ps.reverse.dropWhile isVoid).reverse

def textOf (first : String) (rest : List String) : String :=
  match first, rest, trimPieces rest with
  | "", _ :: _, [] => "/"
  | _, _, ps => "/".intercalate (first :: ps)

/-- The part of `p` below `base`, if the components of `base` are the first ones of `p`. Void
pieces inside it are kept. -/
def below? (base p : String) : Option String :=
  match components base, pieces p with
  | [], first :: rest => some (textOf first rest)
  | b :: bs, first :: rest =>
    if (anchor first rest).head? = some b then
      (strip bs rest).map fun ps => "/".intercalate (trimPieces (ps.dropWhile isVoid))
    else none
  | _, [] => none

def parent (p : String) : String :=
  match pieces p with
  | [] | [_] => ""
  | first :: rest => textOf first rest.dropLast

end Testbed.Path
