/-!
Sets of characters as patterns describe them, and membership in them.
-/
namespace Testbed.Pattern

/-- A `listed` set is one of a table of so many ranges; `folded` adds to a set what differs from it
in case only. -/
inductive CharSet where
  | none
  | range (first last : Nat)
  | listed (ranges : Nat) (holds : Char → Bool)
  | union (s t : CharSet)
  | inter (s t : CharSet)
  | minus (s t : CharSet)
  | either (s t : CharSet)
  | compl (s : CharSet)
  | folded (variants : Char → List Char) (s : CharSet)

namespace CharSet

def single (c : Char) : CharSet := range c.toNat c.toNat

def any : CharSet := range 0 0x10ffff

def ofRanges (ranges : List (Nat × Nat)) : CharSet :=
  ranges.foldl (fun s r => union s (range r.1 r.2)) none

def isAsciiWordChar (c : Char) : Bool := c.isAlphanum || c == '_'

def mem : CharSet → Char → Bool
  | none, _ => false
  | range first last, c => first ≤ c.toNat && c.toNat ≤ last
  | listed _ holds, c => holds c
  | union s t, c => s.mem c || t.mem c
  | inter s t, c => s.mem c && t.mem c
  | minus s t, c => s.mem c && !t.mem c
  | either s t, c => s.mem c != t.mem c
  | compl s, c => !s.mem c
  | folded variants s, c => (variants c).any s.mem

def asciiNamed? : String → Option (List (Nat × Nat))
  | "alnum" => some [(48, 57), (65, 90), (97, 122)]
  | "alpha" => some [(65, 90), (97, 122)]
  | "ascii" => some [(0, 127)]
  | "blank" => some [(9, 9), (32, 32)]
  | "cntrl" => some [(0, 31), (127, 127)]
  | "digit" => some [(48, 57)]
  | "graph" => some [(33, 126)]
  | "lower" => some [(97, 122)]
  | "print" => some [(32, 126)]
  | "punct" => some [(33, 47), (58, 64), (91, 96), (123, 126)]
  | "space" => some [(9, 13), (32, 32)]
  | "upper" => some [(65, 90)]
  | "word" => some [(48, 57), (65, 90), (95, 95), (97, 122)]
  | "xdigit" => some [(48, 57), (65, 70), (97, 102)]
  | _ => Option.none

end CharSet

end Testbed.Pattern
