import Testbed.Pattern.CharSet

/-!
Regular expressions over characters, and where they match. A pattern carries a set of positions
of a text to the set of positions at which a match begun at one of them can end.
-/
namespace Testbed

namespace Pattern

/-- Conditions on a place between two characters; some go by which characters make up words. -/
inductive Look where
  | start
  | stop
  | lineStart (crlf : Bool)
  | lineStop (crlf : Bool)
  | boundary (word : Char → Bool)
  | noBoundary (word : Char → Bool)
  | wordStart (word : Char → Bool)
  | wordStop (word : Char → Bool)
  | noWordBefore (word : Char → Bool)
  | noWordAfter (word : Char → Bool)

def Look.holds (before after : Option Char) : Look → Bool
  | start => before.isNone
  | stop => after.isNone
  | lineStart false => before.all (· == '\n')
  | lineStop false => after.all (· == '\n')
  | lineStart true => before.all fun b => b == '\n' || (b == '\r' && after != some '\n')
  | lineStop true => after.all fun a => a == '\r' || (a == '\n' && before != some '\r')
  | boundary word => before.any word != after.any word
  | noBoundary word => before.any word == after.any word
  | wordStart word => !before.any word && after.any word
  | wordStop word => before.any word && !after.any word
  | noWordBefore word => !before.any word
  | noWordAfter word => !after.any word

end Pattern

/-- `repeated` allows `least` to `most` copies in a row. -/
inductive Pattern where
  | empty
  | char (s : Pattern.CharSet)
  | look (l : Pattern.Look)
  | seq (p q : Pattern)
  | either (p q : Pattern)
  | repeated (p : Pattern) (least : Nat) (most : Option Nat)

namespace Pattern

def merge : List Nat → List Nat → List Nat
  | [], b => b
  | a, [] => a
  | x :: a, y :: b =>
    if x < y then x :: merge a (y :: b)
    else if y < x then y :: merge (x :: a) b
    else x :: merge a b
termination_by a b => a.length + b.length

def rounds (f : List Nat → List Nat) : Nat → List Nat → List Nat
  | 0, s => s
  | n + 1, s => if f s = s then s else rounds f n (f s)

def before (text : Array Char) (i : Nat) : Option Char := if i = 0 then none else text[i - 1]?

/-- Where matches that begin at one of the positions can end. -/
def ends (text : Array Char) : Pattern → List Nat → List Nat
  | empty, s => s
  | char set, s => s.filterMap fun i => if text[i]?.any set.mem then some (i + 1) else none
  | look l, s => s.filter fun i => l.holds (before text i) text[i]?
  | seq p q, s => q.ends text (p.ends text s)
  | either p q, s => merge (p.ends text s) (q.ends text s)
  | repeated p least most, s =>
    let more := (most.map (· - least)).getD (text.size + 1)
    rounds (fun t => merge t (p.ends text t)) more (rounds (p.ends text) least s)

def found (p : Pattern) (text : String) : Bool :=
  let text := text.toList.toArray
  !(p.ends text (List.range (text.size + 1))).isEmpty

def ofList (ps : List Pattern) : Pattern :=
  match ps with
  | [] => empty
  | p :: ps => ps.foldl seq p

def oneOf (p : Pattern) (ps : List Pattern) : Pattern := ps.foldl either p

end Pattern

end Testbed
