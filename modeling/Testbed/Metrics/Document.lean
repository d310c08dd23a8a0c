import Testbed.Metrics.Family
import Testbed.Metrics.Line.Lexer

/-!
Reading a whole exposition document. All lines are lexed first, and a name may not be declared
with two kinds; then the samples are attached to their families in document order. Kinds
declared anywhere in the document decide where a sample with a suffix belongs.
-/
namespace Testbed.Metrics

inductive DocumentError where
  | line (e : LineError)
  | conflict (name : String) (first second : Kind)
  | duplicateLabel (name : String)
  | missingBound (sample label : String)
  | badBound (label text : String)
  | misfit (sample : String)

def DocumentError.message : DocumentError → String
  | line e => e.message
  | conflict name first second =>
    name ++ " declared as " ++ first.title ++ " and " ++ second.title
  | duplicateLabel name => "duplicate label " ++ name
  | missingBound sample label => sample ++ " sample without " ++ label ++ " label"
  | badBound label text => "invalid " ++ label ++ " value " ++ Text.quoted text
  | misfit sample => "sample " ++ sample ++ " does not fit its family"

structure Located where
  line : Nat
  error : DocumentError

def Located.message (l : Located) : String :=
  "line " ++ Decimal.text l.line ++ ": " ++ l.error.message

structure Outline where
  kinds : Table Kind
  helps : Table String
  samples : List (Nat × Sample)

def Outline.empty : Outline := ⟨{}, {}, []⟩

def Outline.add (o : Outline) (n : Nat) : Line → Except Located Outline
  | .blank | .comment => .ok o
  | .help name text => .ok { o with helps := o.helps.insert name text }
  | .declaration name kind =>
    match o.kinds.get? name with
    | some first =>
      if first = kind then .ok o else .error ⟨n, .conflict name first kind⟩
    | none => .ok { o with kinds := o.kinds.insert name kind }
  | .sample s => .ok { o with samples := o.samples ++ [(n, s)] }

def Outline.addLine (o : Outline) (n : Nat) (line : List Char) : Except Located Outline :=
  match lexLine line with
  | .ok l => o.add n l
  | .error e => .error ⟨n, .line e⟩

def Outline.read (o : Outline) : Nat → List (List Char) → Except Located Outline
  | _, [] => .ok o
  | n, line :: rest => do (← o.addLine n line).read (n + 1) rest

inductive Role where
  | value
  | bucket
  | sum
  | count
deriving DecidableEq

def stem? (suffix_ name : String) : Option String :=
  if suffix_.toList.isSuffixOf name.toList then
    some (String.ofList (name.toList.take (name.toList.length - suffix_.toList.length)))
  else none

def declaredAs (kinds : Table Kind) (p : Kind → Bool) (name : String) : Bool :=
  (kinds.get? name).any p

/-- The family and role of a sample name. A suffix counts only if the name without it is
declared as a kind that has such samples. -/
def resolve (kinds : Table Kind) (name : String) : String × Role :=
  let candidates : List (String × (Kind → Bool) × Role) :=
    [("_bucket", (· = .histogram), .bucket), ("_sum", Kind.isAggregate, .sum),
      ("_count", Kind.isAggregate, .count)]
  let hit := candidates.findSome? fun (suffix_, p, role) =>
    ((stem? suffix_ name).filter (declaredAs kinds p)).map fun base => (base, role)
  hit.getD (name, .value)

def labelSet (pairs : List (String × String)) : Except DocumentError Labels :=
  pairs.foldlM (fun t p =>
    if t.contains p.1 then .error (.duplicateLabel p.1) else .ok (t.insert p.1 p.2)) {}

/-- The label that carries the bound of a bucket or the rank of a quantile. -/
def boundLabel (kind : Kind) : String := if kind = .histogram then "le" else "quantile"

def Value.empty (kind : Kind) : Value :=
  if kind = .histogram then .histogram 0.0 0.0 [] else .summary 0.0 0.0 []

def Value.fold (role : Role) (bound : Option Float) (x : Float) : Value → Option Value
  | .histogram sum count buckets =>
    match role, bound with
    | .bucket, some b => some (.histogram sum count (buckets ++ [⟨b, x⟩]))
    | .sum, _ => some (.histogram x count buckets)
    | .count, _ => some (.histogram sum x buckets)
    | _, _ => none
  | .summary sum count quantiles =>
    match role, bound with
    | .value, some q => some (.summary sum count (quantiles ++ [⟨q, x⟩]))
    | .sum, _ => some (.summary x count quantiles)
    | .count, _ => some (.summary sum x quantiles)
    | _, _ => none
  | .simple _ => none

def takeBound (kind : Kind) (role : Role) (s : Sample) (labels : Labels) :
    Except DocumentError (Labels × Option Float) :=
  let label := boundLabel kind
  match role with
  | .sum | .count => .ok (labels, none)
  | .bucket | .value =>
    match labels.get? label with
    | none => .error (.missingBound s.name label)
    | some raw =>
      match Decimal.readFloat raw.toList with
      | none => .error (.badBound label raw)
      | some b => .ok (labels.erase label, some b)

def Series.fold (role : Role) (bound : Option Float) (s : Sample) (old : Series) :
    Except DocumentError Series :=
  match old.value.fold role bound s.value with
  | some v => .ok { old with value := v, timestamp := s.timestamp <|> old.timestamp }
  | none => .error (.misfit s.name)

/-- Folds a line into the series with these labels, a new one at the end if there is none. -/
def foldInto (kind : Kind) (labels : Labels) (step : Series → Except DocumentError Series) :
    List Series → Except DocumentError (List Series)
  | [] => do return [← step ⟨labels, Value.empty kind, none⟩]
  | m :: rest =>
    if m.labels = labels then do return (← step m) :: rest
    else do return m :: (← foldInto kind labels step rest)

def Family.add (f : Family) (role : Role) (s : Sample) : Except DocumentError Family := do
  let labels ← labelSet s.labels
  if f.kind.isAggregate then
    let (labels, bound) ← takeBound f.kind role s labels
    let series ← foldInto f.kind labels (Series.fold role bound s) f.series
    return { f with series }
  else
    return { f with series := f.series ++ [⟨labels, .simple s.value, s.timestamp⟩] }

def attach (o : Outline) (families : Families) (numbered : Nat × Sample) :
    Except Located Families :=
  let (n, s) := numbered
  let (name, role) := resolve o.kinds s.name
  let family := (families.get? name).getD
    ⟨o.helps.get? name, (o.kinds.get? name).getD .untyped, []⟩
  match family.add role s with
  | .ok f => .ok (families.insert name f)
  | .error e => .error ⟨n, e⟩

def Outline.families (o : Outline) : Except Located Families :=
  o.samples.foldlM (attach o) {}

def parse (document : String) : Except Located Families := do
  (← Outline.empty.read 1 (Text.lines document.toList)).families

end Testbed.Metrics
