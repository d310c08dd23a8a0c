import Testbed.Pattern.Category
import Testbed.Pattern.Dialect
import Testbed.Pattern.Fold
import Testbed.Pattern.Script
import Testbed.Text.Blank

/-!
An engine whose tables hold the general categories and the scripts in common use, and which
estimates the size of what it compiles.
-/
namespace Testbed.Pattern

namespace CharSet

def category (k : Category) : CharSet := listed k.ranges.length k.holds

def ofCategories (ks : List Category) : CharSet :=
  ks.foldl (fun s k => union s (category k)) none

def letters : List Category := [.upper, .lower, .title, .modifierLetter, .otherLetter]

def wordCategories : List Category :=
  letters ++ [.nonspacingMark, .spacingMark, .enclosingMark, .digit, .letterNumber, .connector]

def extraWordRanges : List (Nat × Nat) :=
  [(0x200c, 0x200d), (0x24b6, 0x24e9), (0x1f130, 0x1f149), (0x1f150, 0x1f169), (0x1f170, 0x1f189)]

def within (ranges : List (Nat × Nat)) (c : Char) : Bool :=
  ranges.any fun r => r.1 ≤ c.toNat && c.toNat ≤ r.2

def script (ranges : List (Nat × Nat)) : CharSet := listed ranges.length (within ranges)

def isWordChar (c : Char) : Bool :=
  c.isAlphanum || c == '_' ||
  (128 ≤ c.toNat && (wordCategories.any (·.holds c) || within extraWordRanges c))

def longName? : String → Option String
  | "uppercaseletter" => some "lu"
  | "lowercaseletter" => some "ll"
  | "titlecaseletter" => some "lt"
  | "modifierletter" => some "lm"
  | "otherletter" => some "lo"
  | "nonspacingmark" => some "mn"
  | "spacingmark" => some "mc"
  | "enclosingmark" => some "me"
  | "decimalnumber" => some "nd"
  | "letternumber" => some "nl"
  | "othernumber" => some "no"
  | "connectorpunctuation" => some "pc"
  | "dashpunctuation" => some "pd"
  | "openpunctuation" => some "ps"
  | "closepunctuation" => some "pe"
  | "initialpunctuation" => some "pi"
  | "finalpunctuation" => some "pf"
  | "otherpunctuation" => some "po"
  | "mathsymbol" => some "sm"
  | "currencysymbol" => some "sc"
  | "modifiersymbol" => some "sk"
  | "othersymbol" => some "so"
  | "spaceseparator" => some "zs"
  | "lineseparator" => some "zl"
  | "paragraphseparator" => some "zp"
  | "control" | "cntrl" => some "cc"
  | "format" => some "cf"
  | "privateuse" => some "co"
  | "surrogate" => some "cs"
  | _ => Option.none

def groupNamed? : String → Option (List Category)
  | "l" | "letter" => some letters
  | "lc" | "casedletter" => some [.upper, .lower, .title]
  | "m" | "mark" | "combiningmark" => some [.nonspacingMark, .spacingMark, .enclosingMark]
  | "n" | "number" => some [.digit, .letterNumber, .otherNumber]
  | "p" | "punctuation" | "punct" =>
    some [.connector, .dash, .opening, .closing, .initialQuote, .finalQuote, .otherPunctuation]
  | "s" | "symbol" => some [.mathSymbol, .currency, .modifierSymbol, .otherSymbol]
  | "z" | "separator" => some [.spaceSeparator, .lineSeparator, .paragraphSeparator]
  | _ => Option.none

def categoryNamed? (name : String) : Option CharSet :=
  match name with
  | "any" => some any
  | "assigned" => some (ofCategories Category.all)
  | "ascii" => some (range 0 127)
  | "cn" | "unassigned" => some (compl (ofCategories Category.all))
  | "c" | "other" => some (compl (ofCategories (Category.all.filter fun k =>
      k != .control && k != .format && k != .surrogate && k != .privateUse)))
  | name =>
    match groupNamed? name with
    | some ks => some (ofCategories ks)
    | Option.none => (Category.ofCode? ((longName? name).getD name)).map category

def scriptNamed? (name : String) : Option CharSet := (scriptRanges? name).map script

/-- Names are compared without case, blanks, hyphens, underscores and a leading `is`. -/
def looseName (name : String) : String :=
  let kept := (name.toList.filter fun c => !Text.isBlank c && c != '-' && c != '_').map Char.toLower
  match kept with
  | 'i' :: 's' :: c :: r => String.ofList (c :: r)
  | r => String.ofList r

def ofProperty? (property value : String) : Option CharSet :=
  match looseName property with
  | "generalcategory" | "gc" => categoryNamed? (looseName value)
  | "script" | "sc" | "scriptextensions" | "scx" => scriptNamed? (looseName value)
  | _ => Option.none

def named? (name : String) : Option CharSet :=
  match looseName name with
  | "whitespace" | "wspace" | "space" => some (listed 10 Text.isBlank)
  | name => (categoryNamed? name).or (scriptNamed? name)

/-- Roughly how many ranges a set falls into: a measure of the room it takes. -/
def weight : CharSet → Nat
  | none => 0
  | range _ _ => 1
  | listed ranges _ => ranges
  | union s t | inter s t | minus s t | either s t => s.weight + t.weight
  | compl s => s.weight + 1
  | folded _ s => 2 * s.weight

end CharSet

/-- The room a pattern takes when every repetition is written out, in bytes. -/
def room : Pattern → Nat
  | empty => 32
  | char s => 32 + 24 * (s.weight - 1)
  | look _ => 32
  | seq p q => p.room + q.room
  | either p q => p.room + q.room + 40
  | repeated p least most =>
    p.room * max (most.getD least) 1 + 32 * ((most.getD least - least) + 1)

def Dialect.common : Dialect where
  named? := CharSet.named?
  valued? := CharSet.ofProperty?
  digit := .listed 64 Category.digit.holds
  space := .listed 10 Text.isBlank
  word := .listed 760 CharSet.isWordChar
  variants c := (Pattern.variants c).map Char.ofNat
  startsName c := CharSet.letters.any (·.holds c)
  continuesName c :=
    ([Category.digit, .letterNumber, .otherNumber] ++ CharSet.letters).any (·.holds c)
  depthLimit := 250
  fits p := p.room ≤ 10_485_760

end Testbed.Pattern
