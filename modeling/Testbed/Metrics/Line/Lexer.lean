import Testbed.Metrics.Line
import Testbed.Text.Blank
import Testbed.Decimal.Read

/-!
Lexing one line. A scanner returns what it read and the rest of the line. Inside a line only
spaces and tabs separate; around it every blank is dropped.
-/
namespace Testbed.Metrics

def isSeparator (c : Char) : Bool := c == ' ' || c == '\t'

def isNameStart (c : Char) : Bool := c.isAlpha || c == '_' || c == ':'

def isNameContinue (c : Char) : Bool := c.isAlphanum || c == '_' || c == ':'

def isLabelStart (c : Char) : Bool := c.isAlpha || c == '_'

def isLabelContinue (c : Char) : Bool := c.isAlphanum || c == '_'

def skipSeparators (s : List Char) : List Char := s.dropWhile isSeparator

theorem length_skipSeparators_le (s : List Char) : (skipSeparators s).length ≤ s.length :=
  (List.dropWhile_sublist _).length_le

def scanSeparators (s : List Char) : Except Stop (List Char) :=
  match s with
  | c :: _ => if isSeparator c then .ok (skipSeparators s) else .error ⟨false, .blank, s⟩
  | [] => .error ⟨false, .blank, s⟩

def scanName (start continue_ : Char → Bool) (s : List Char) : Except Stop (List Char × List Char) :=
  match s with
  | c :: r =>
    if start c then .ok (c :: r.takeWhile continue_, r.dropWhile continue_)
    else .error ⟨false, .name, s⟩
  | [] => .error ⟨false, .name, s⟩

theorem scanName_rest_lt {start continue_ : Char → Bool} {s name rest : List Char}
    (h : scanName start continue_ s = .ok (name, rest)) : rest.length < s.length := by
  unfold scanName at h
  split at h
  · split at h
    · simp only [Except.ok.injEq, Prod.mk.injEq] at h
      have := (List.dropWhile_sublist continue_ (l := ‹List Char›)).length_le
      simp only [← h.2, List.length_cons]
      omega
    · simp at h
  · simp at h

/-- What a backslash and the character after it stand for: unknown escapes stay as they are. -/
def unescapeLabel (c : Char) : List Char :=
  if c = 'n' then ['\n'] else if c = '\\' ∨ c = '"' then [c] else ['\\', c]

def scanLabelText : List Char → Option (List Char × List Char)
  | [] => none
  | '"' :: r => some ([], r)
  | ['\\'] => none
  | '\\' :: c :: r => (scanLabelText r).map fun p => (unescapeLabel c ++ p.1, p.2)
  | c :: r => (scanLabelText r).map fun p => (c :: p.1, p.2)

theorem scanLabelText_rest_lt {s text rest : List Char}
    (h : scanLabelText s = some (text, rest)) : rest.length < s.length := by
  fun_induction scanLabelText s generalizing text rest with
  | case1 => simp at h
  | case2 r => simp at h; simp [h.2]
  | case3 => simp at h
  | case4 c r ih =>
    obtain ⟨p, hp, he⟩ := Option.map_eq_some_iff.1 h
    have := ih hp
    simp only [Prod.mk.injEq] at he
    simp only [← he.2, List.length_cons]
    omega
  | case5 c r _ _ _ ih =>
    obtain ⟨p, hp, he⟩ := Option.map_eq_some_iff.1 h
    have := ih hp
    simp only [Prod.mk.injEq] at he
    simp only [← he.2, List.length_cons]
    omega

/-- `name="value"`, with separators allowed around the equals sign. Past the opening quote
nothing else can be meant, so a missing closing quote is final. -/
def scanLabel (s : List Char) : Except Stop ((String × String) × List Char) := do
  let (name, afterName) ← scanName isLabelStart isLabelContinue s
  match skipSeparators afterName with
  | '=' :: r =>
    match skipSeparators r with
    | '"' :: body =>
      match scanLabelText body with
      | some (text, rest) => .ok ((String.ofList name, String.ofList text), rest)
      | none => .error ⟨true, .quote, body⟩
    | other => .error ⟨false, .quote, other⟩
  | other => .error ⟨false, .quote, other⟩

theorem scanLabel_rest_lt {s rest : List Char} {l : String × String}
    (h : scanLabel s = .ok (l, rest)) : rest.length < s.length := by
  unfold scanLabel at h
  cases hn : scanName isLabelStart isLabelContinue s with
  | error e => simp [hn, bind, Except.bind] at h
  | ok p =>
    obtain ⟨name, afterName⟩ := p
    have h₁ := scanName_rest_lt hn
    have h₂ := length_skipSeparators_le afterName
    simp only [hn, bind, Except.bind] at h
    split at h
    · next r hr =>
      have h₃ := length_skipSeparators_le r
      rw [hr, List.length_cons] at h₂
      split at h
      · next body hb =>
        rw [hb, List.length_cons] at h₃
        split at h
        · next text rest' ht =>
          have h₄ := scanLabelText_rest_lt ht
          simp only [Except.ok.injEq, Prod.mk.injEq] at h
          simp only [← h.2]
          omega
        · simp at h
      · simp at h
    · simp at h

set_option linter.unusedVariables false in
/-- The labels after a first one: each is announced by a comma. A comma that no label follows
is left in place. -/
def scanMoreLabels (s : List Char) : Except Stop (List (String × String) × List Char) :=
  match hs : skipSeparators s with
  | ',' :: r =>
    match hl : scanLabel (skipSeparators r) with
    | .ok (l, rest) => do
      let (ls, rest) ← scanMoreLabels rest
      .ok (l :: ls, rest)
    | .error stop => if stop.final then .error stop else .ok ([], s)
  | _ => .ok ([], s)
termination_by s.length
decreasing_by
  have h₁ := scanLabel_rest_lt hl
  have h₂ := length_skipSeparators_le r
  have h₃ := length_skipSeparators_le s
  rw [hs, List.length_cons] at h₃
  omega

def scanLabels (s : List Char) : Except Stop (List (String × String) × List Char) :=
  match scanLabel s with
  | .ok (l, rest) => do
    let (ls, rest) ← scanMoreLabels rest
    .ok (l :: ls, rest)
  | .error stop => if stop.final then .error stop else .ok ([], s)

def scanBlock (s : List Char) : Except Stop (List (String × String) × List Char) :=
  match s with
  | '\x7b' :: r => do
    let (labels, rest) ← scanLabels (skipSeparators r)
    let rest := match skipSeparators rest with
      | ',' :: r => skipSeparators r
      | r => r
    match rest with
    | '\x7d' :: rest => .ok (labels, rest)
    | other => .error ⟨false, .quote, other⟩
  | other => .error ⟨false, .quote, other⟩

/-- A block that is not one counts as absent, and the line goes on where it would have begun. -/
def scanOptionalBlock (s : List Char) : Except Stop (Option (List (String × String)) × List Char) :=
  match scanBlock (skipSeparators s) with
  | .ok (labels, rest) => .ok (some labels, rest)
  | .error stop => if stop.final then .error stop else .ok (none, s)

def scanValue (s : List Char) : Except Stop (Float × List Char) :=
  let token := s.takeWhile fun c => !isSeparator c
  if token = [] then .error ⟨false, .token, s⟩
  else match Decimal.readFloat token with
    | some x => .ok (x, s.dropWhile fun c => !isSeparator c)
    | none => .error ⟨true, .number, s⟩

/-- A timestamp that cannot be read counts as absent. -/
def scanTimestamp (s : List Char) : Option Int × List Char :=
  match scanSeparators s with
  | .ok r =>
    match Decimal.scanInt64 r with
    | some (t, rest) => (some t, rest)
    | none => (none, s)
  | .error _ => (none, s)

def scanSample (s : List Char) : Except Stop (Line × List Char) := do
  let (name, s) ← scanName isNameStart isNameContinue s
  let (block, s) ← scanOptionalBlock s
  let s ← match block with
    | some _ => .ok (skipSeparators s)
    | none => scanSeparators s
  let (value, s) ← scanValue s
  let (timestamp, s) := scanTimestamp s
  .ok (.sample ⟨String.ofList name, block.getD [], value, timestamp⟩, skipSeparators s)

def unescapeHelp : List Char → List Char
  | '\\' :: 'n' :: r => '\n' :: unescapeHelp r
  | '\\' :: '\\' :: r => '\\' :: unescapeHelp r
  | '\\' :: c :: r => '\\' :: c :: unescapeHelp r
  | c :: r => c :: unescapeHelp r
  | [] => []

def scanWord (word : String) (s : List Char) : Option (List Char) :=
  if word.toList.isPrefixOf s then some (s.drop word.length) else none

/-- A help line whose name runs into other text keeps that text as its rest. -/
def scanHelp (s : List Char) : Option (Line × List Char) := do
  let s ← scanWord "HELP" s
  let s ← (scanSeparators s).toOption
  let (name, s) ← (scanName isNameStart isNameContinue s).toOption
  match scanSeparators s with
  | .ok text => some (.help (String.ofList name)
      (String.ofList (unescapeHelp (Text.trimRight text))), [])
  | .error _ => some (.help (String.ofList name) "", s)

/-- A declaration whose keyword is a word but no kind is final. -/
def scanDeclaration (s : List Char) : Option (Except Stop (Line × List Char)) := do
  let s ← scanWord "TYPE" s
  let s ← (scanSeparators s).toOption
  let (name, s) ← (scanName isNameStart isNameContinue s).toOption
  let s ← (scanSeparators s).toOption
  let word := s.takeWhile Char.isAlpha
  if word = [] then none
  else match Kind.ofKeyword? (String.ofList word) with
    | some k => some (.ok (.declaration (String.ofList name) k,
        skipSeparators (s.dropWhile Char.isAlpha)))
    | none => some (.error ⟨true, .kind, s⟩)

def scanComment (s : List Char) : Except Stop (Line × List Char) :=
  let s := skipSeparators s
  match scanHelp s with
  | some r => .ok r
  | none => (scanDeclaration s).getD (.ok (.comment, []))

def scanLine (s : List Char) : Except Stop (Line × List Char) :=
  match s with
  | '#' :: r => scanComment r
  | s => scanSample s

def lexLine (line : List Char) : Except LineError Line :=
  let s := Text.trim line
  if s = [] then .ok .blank
  else match scanLine s with
    | .ok (l, []) => .ok l
    | .ok (_, rest) => .error (.trailing rest)
    | .error stop => .error (.malformed s stop)

end Testbed.Metrics
