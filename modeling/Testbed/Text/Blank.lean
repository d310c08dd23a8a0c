/-!
Blank characters, trimming, and cutting a text into lines. Trimming takes every
character with the White_Space property; a line ends at a line feed, and a carriage
return just before it belongs to the ending.
-/
namespace Testbed.Text

def isBlank (c : Char) : Bool :=
  (9 ≤ c.toNat && c.toNat ≤ 13) || c == ' ' || c.toNat == 0x85 || c.toNat == 0xA0 ||
  c.toNat == 0x1680 || (0x2000 ≤ c.toNat && c.toNat ≤ 0x200A) || c.toNat == 0x2028 ||
  c.toNat == 0x2029 || c.toNat == 0x202F || c.toNat == 0x205F || c.toNat == 0x3000

def trimLeft (s : List Char) : List Char := s.dropWhile isBlank

def trimRight (s : List Char) : List Char := (s.reverse.dropWhile isBlank).reverse

def trim (s : List Char) : List Char := trimRight (trimLeft s)

/-- A text is cut before each line feed; `cut` keeps the piece after the last one too. -/
def cut (stop : Char) : List Char → List (List Char)
  | [] => [[]]
  | c :: r =>
    if c = stop then [] :: cut stop r
    else match cut stop r with
      | [] => [[c]]
      | p :: ps => (c :: p) :: ps

theorem cut_ne_nil (stop : Char) (s : List Char) : cut stop s ≠ [] := by
  induction s with
  | nil => simp [cut]
  | cons c r _ =>
    simp only [cut]
    split
    · simp
    · split <;> simp

theorem cut_of_not_mem {stop : Char} {s : List Char} (h : stop ∉ s) : cut stop s = [s] := by
  induction s with
  | nil => rfl
  | cons c s ih =>
    have hc : c ≠ stop := fun heq => h (heq ▸ List.mem_cons_self)
    rw [cut, if_neg hc, ih fun hs => h (List.mem_cons_of_mem c hs)]

theorem cut_concat {stop : Char} {t : List Char} (h : stop ∉ t) (s : List Char) :
    cut stop (s ++ stop :: t) = cut stop s ++ [t] := by
  induction s with
  | nil =>
    have hfirst : cut stop (stop :: t) = [] :: cut stop t := by rw [cut, if_pos rfl]
    rw [List.nil_append, hfirst, cut_of_not_mem h]
    rfl
  | cons c s ih =>
    rw [List.cons_append, cut, cut, ih]
    split
    · rfl
    · cases hs : cut stop s with
      | nil => exact absurd hs (cut_ne_nil stop s)
      | cons p ps => rfl

def dropReturn (s : List Char) : List Char :=
  if s.getLast? = some '\r' then s.dropLast else s

/-- Lines in order; an empty piece after the last line feed is no line. -/
def lines (s : List Char) : List (List Char) :=
  let pieces := cut '\n' s
  let closed := pieces.dropLast.map dropReturn
  match pieces.getLast? with
  | none | some [] => closed
  | some rest => closed ++ [rest]

def splitAt (stop : Char) (s : String) : List String :=
  (cut stop s.toList).map String.ofList

def trimmed (s : String) : String := String.ofList (trim s.toList)

end Testbed.Text
