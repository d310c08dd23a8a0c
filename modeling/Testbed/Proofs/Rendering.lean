import Testbed.Metrics.Document

/-!
How families are written as a document: a help line if there is a help text, a declaration, and
the sample lines of each series. Numbers may be written in any way that reads back as them, and
families and labels in any order.
-/
namespace Testbed.Metrics

def escapeLabel (c : Char) : List Char :=
  if c = '\n' then ['\\', 'n'] else if c = '\\' ∨ c = '"' then ['\\', c] else [c]

def escapeHelp (c : Char) : List Char :=
  if c = '\n' then ['\\', 'n'] else if c = '\\' then ['\\', '\\'] else [c]

def labelText (p : String × String) : List Char :=
  p.1.toList ++ '=' :: '"' :: (p.2.toList.flatMap escapeLabel ++ ['"'])

def blockText : List (String × String) → List Char
  | [] => []
  | p :: ps =>
    '\x7b' :: (labelText p ++ (ps.flatMap fun q => ',' :: labelText q) ++ ['\x7d'])

def timestampText : Option Int → List Char
  | none => []
  | some t => ' ' :: (Decimal.textInt t).toList

/-- A sample and a token that its value is written as. -/
structure Written where
  sample : Sample
  token : List Char
  reads : Decimal.readFloat token = some sample.value

def Written.text (w : Written) : List Char :=
  w.sample.name.toList ++ blockText w.sample.labels ++ ' ' :: w.token ++
    timestampText w.sample.timestamp

def helpText (name text : String) : List Char :=
  "# HELP ".toList ++ name.toList ++ ' ' :: text.toList.flatMap escapeHelp

def declarationText (name : String) (kind : Kind) : List Char :=
  "# TYPE ".toList ++ name.toList ++ ' ' :: kind.keyword.toList

structure Written.Says (w : Written) (name : String) (labels : List (String × String)) (x : Float)
    (timestamp : Option Int) : Prop where
  name : w.sample.name = name
  labels : w.sample.labels.Perm labels
  value : w.sample.value = x
  timestamp : w.sample.timestamp = timestamp

def Written.SaysBounded (w : Written) (name label : String) (bound : Float)
    (labels : List (String × String)) (x : Float) (timestamp : Option Int) : Prop :=
  ∃ raw : String, Decimal.readFloat raw.toList = some bound ∧
    w.Says name ((label, raw) :: labels) x timestamp

/-- The lines of a series: of an aggregate the bounded ones in order, then the totals. -/
inductive Writes (name : String) : Series → List Written → Prop
  | simple {labels : Labels} {x : Float} {timestamp : Option Int} {w : Written}
      (h : w.Says name labels.entries x timestamp) :
      Writes name ⟨labels, .simple x, timestamp⟩ [w]
  | histogram {labels : Labels} {sum count : Float} {timestamp : Option Int}
      {bs : List (Bucket × Written)} {s c : Written}
      (hbs : ∀ g ∈ bs, g.2.SaysBounded (name ++ "_bucket") "le" g.1.bound labels.entries g.1.count
        timestamp)
      (hs : s.Says (name ++ "_sum") labels.entries sum timestamp)
      (hc : c.Says (name ++ "_count") labels.entries count timestamp) :
      Writes name ⟨labels, .histogram sum count (bs.map (·.1)), timestamp⟩
        (bs.map (·.2) ++ [s, c])
  | summary {labels : Labels} {sum count : Float} {timestamp : Option Int}
      {qs : List (Quantile × Written)} {s c : Written}
      (hqs : ∀ g ∈ qs, g.2.SaysBounded name "quantile" g.1.rank labels.entries g.1.value timestamp)
      (hs : s.Says (name ++ "_sum") labels.entries sum timestamp)
      (hc : c.Says (name ++ "_count") labels.entries count timestamp) :
      Writes name ⟨labels, .summary sum count (qs.map (·.1)), timestamp⟩
        (qs.map (·.2) ++ [s, c])

structure WrittenFamily where
  name : String
  family : Family
  series : List (Series × List Written)
  all : series.map (·.1) = family.series
  writes : ∀ g ∈ series, Writes name g.1 g.2

def WrittenFamily.samples (w : WrittenFamily) : List Written := w.series.flatMap (·.2)

def WrittenFamily.text (w : WrittenFamily) : List (List Char) :=
  (w.family.help.map (helpText w.name)).toList ++
    declarationText w.name w.family.kind :: w.samples.map Written.text

/-- A document that says what families there are, in any order. -/
def Renders (fs : Families) (document : String) : Prop :=
  ∃ ws : List WrittenFamily, (ws.map fun w => (w.name, w.family)).Perm fs.entries ∧
    document.toList = (ws.flatMap WrittenFamily.text).flatMap (· ++ ['\n'])

def IsName (start continue_ : Char → Bool) (name : List Char) : Prop :=
  ∃ c r, name = c :: r ∧ start c ∧ r.all continue_

def IsTrimmed (text : String) : Prop :=
  (∀ c ∈ text.toList.head?, Text.isBlank c = false) ∧
    ∀ c ∈ text.toList.getLast?, Text.isBlank c = false

def Value.OfKind (kind : Kind) : Value → Prop
  | .simple _ => kind.isAggregate = false
  | .histogram .. => kind = .histogram
  | .summary .. => kind = .summary

structure Series.WellFormed (kind : Kind) (m : Series) : Prop where
  labels : ∀ e ∈ m.labels.entries, IsName isLabelStart isLabelContinue e.1.toList
  value : m.value.OfKind kind
  timestamp : ∀ t ∈ m.timestamp, Decimal.inInt64 t
  unbounded : kind.isAggregate → m.labels.get? (boundLabel kind) = none

structure Family.WellFormed (name : String) (f : Family) : Prop where
  name : IsName isNameStart isNameContinue name.toList
  help : ∀ text ∈ f.help, IsTrimmed text
  nonempty : f.series ≠ []
  series : ∀ m ∈ f.series, m.WellFormed f.kind
  distinct : f.kind.isAggregate → (f.series.map (·.labels)).Nodup

/-- Families of which none has the name of a line of another. -/
structure Families.WellFormed (fs : Families) : Prop where
  family : ∀ name f, fs.get? name = some f → f.WellFormed name
  bucket : ∀ base f, fs.get? base = some f → f.kind = .histogram →
    fs.get? (base ++ "_bucket") = none
  total : ∀ base f, fs.get? base = some f → f.kind.isAggregate →
    fs.get? (base ++ "_sum") = none ∧ fs.get? (base ++ "_count") = none

end Testbed.Metrics
