import Testbed.Decimal.Whole
import Testbed.Pattern.Dialect
import Testbed.Text.Blank

/-!
Reading a pattern. Items are read one after another; an open group keeps what stood before it
on a stack. Flags hold from where they are set to the end of their group.
-/
namespace Testbed.Pattern

inductive PatternError where
  | groupUnclosed
  | groupUnopened
  | groupName
  | lookAround
  | flags
  | nothingToRepeat
  | repetition
  | escape
  | backreference
  | codePoint
  | property
  | classUnclosed
  | classItem
  | classRange
  | wordBoundary
  | notText
  | tooDeep
  | tooLarge
deriving DecidableEq

/-- Messages do not spell out why a pattern is refused. -/
def PatternError.message (_ : PatternError) : String := "<regex error>"

/-- How a text is read from some place on. Groups change the flags only, not the dialect. -/
structure Flags where
  dialect : Dialect
  ignoreCase : Bool
  multiLine : Bool
  dotAll : Bool
  swapGreed : Bool
  crlf : Bool
  wide : Bool
  verbose : Bool

def Flags.initial (d : Dialect) : Flags := ⟨d, false, false, false, false, false, true, false⟩

def skipRemarks : Bool → List Char → List Char
  | _, [] => []
  | true, c :: r => skipRemarks (c != '\n') r
  | false, c :: r =>
    if Text.isBlank c then skipRemarks false r
    else if c = '#' then skipRemarks true r
    else c :: r

def Flags.skip (f : Flags) (s : List Char) : List Char :=
  if f.verbose then skipRemarks false s else s

inductive Switch where
  | negation
  | flag (c : Char)
deriving DecidableEq

def scanSwitches (seen : List Switch) : List Char → Except PatternError (List Switch × List Char)
  | [] => .error .flags
  | c :: r =>
    if c = ':' ∨ c = ')' then
      if seen.getLast? = some .negation then .error .flags else .ok (seen, c :: r)
    else
      let switch := if c = '-' then Switch.negation else .flag c
      if switch ∈ seen ∨ (c ≠ '-' ∧ c ∉ "imsUuRx".toList) then .error .flags
      else scanSwitches (seen ++ [switch]) r

def Flags.set (f : Flags) (on : Bool) : Char → Flags
  | 'i' => { f with ignoreCase := on }
  | 'm' => { f with multiLine := on }
  | 's' => { f with dotAll := on }
  | 'U' => { f with swapGreed := on }
  | 'R' => { f with crlf := on }
  | 'u' => { f with wide := on }
  | 'x' => { f with verbose := on }
  | _ => f

def Flags.apply (f : Flags) (switches : List Switch) : Flags :=
  (switches.foldl (fun (p : Flags × Bool) s =>
    match s with
    | .negation => (p.1, false)
    | .flag c => (p.1.set p.2 c, p.2)) (f, true)).1

def isNameStart (d : Dialect) (c : Char) : Bool :=
  c == '_' || c.isAlpha || (128 ≤ c.toNat && d.startsName c)

def isNameContinue (d : Dialect) (c : Char) : Bool :=
  c == '_' || c == '.' || c == '[' || c == ']' || c.isAlphanum ||
  (128 ≤ c.toNat && d.continuesName c)

def scanGroupName (d : Dialect) (s : List Char) : Except PatternError (String × List Char) :=
  let name := s.takeWhile (· ≠ '>')
  match s.dropWhile (· ≠ '>'), name with
  | '>' :: rest, c :: r =>
    if isNameStart d c && r.all (isNameContinue d) then .ok (String.ofList name, rest)
    else .error .groupName
  | _, _ => .error .groupName

inductive Opening where
  | group (flags : Flags) (name : Option String)
  | switch (flags : Flags)

def scanOpening (f : Flags) (s : List Char) : Except PatternError (Opening × List Char) :=
  match f.skip s with
  | '?' :: '=' :: _ | '?' :: '!' :: _ | '?' :: '<' :: '=' :: _ | '?' :: '<' :: '!' :: _ =>
    .error .lookAround
  | '?' :: 'P' :: '<' :: r | '?' :: '<' :: r => do
    let (name, rest) ← scanGroupName f.dialect r
    .ok (.group f (some name), rest)
  | '?' :: r => do
    let (switches, rest) ← scanSwitches [] r
    match rest with
    | ')' :: rest =>
      if switches = [] then .error .flags else .ok (.switch (f.apply switches), rest)
    | rest => .ok (.group (f.apply switches) none, rest.drop 1)
  | r => .ok (.group f none, r)

inductive Atom where
  | char (c : Char) (asByte : Bool)
  | set (s : CharSet)
  | look (l : Look)

def isHex (c : Char) : Bool :=
  c.isDigit || ('a' ≤ c && c ≤ 'f') || ('A' ≤ c && c ≤ 'F')

def hexValue (c : Char) : Nat :=
  if c.isDigit then c.toNat - 48 else c.toLower.toNat - 87

def ofHex (ds : List Char) : Nat := ds.foldl (fun n c => 16 * n + hexValue c) 0

def charOf (n : Nat) : Except PatternError Char :=
  if n.isValidChar then .ok (Char.ofNat n) else .error .codePoint

def scanFixedHex (f : Flags) :
    Nat → List Char → List Char → Except PatternError (List Char × List Char)
  | 0, acc, s => .ok (acc, s)
  | n + 1, acc, c :: r =>
    if isHex c then scanFixedHex f n (acc ++ [c]) (f.skip r) else .error .codePoint
  | _ + 1, _, [] => .error .escape

def scanBracedHex (f : Flags) :
    Nat → List Char → List Char → Except PatternError (List Char × List Char)
  | fuel + 1, acc, s =>
    match f.skip s with
    | '\x7d' :: r => .ok (acc, f.skip r)
    | c :: r => if isHex c then scanBracedHex f fuel (acc ++ [c]) r else .error .codePoint
    | [] => .error .escape
  | 0, _, _ => .error .escape

def scanHex (f : Flags) (kind : Char) (s : List Char) : Except PatternError (Atom × List Char) :=
  match f.skip s with
  | '\x7b' :: r => do
    let (ds, rest) ← scanBracedHex f (r.length + 1) [] r
    if ds = [] ∨ 0x1_0000_0000 ≤ ofHex ds then .error .codePoint
    else .ok (.char (← charOf (ofHex ds)) false, rest)
  | r => do
    let width := if kind = 'x' then 2 else if kind = 'u' then 4 else 8
    let (ds, rest) ← scanFixedHex f width [] r
    .ok (.char (← charOf (ofHex ds)) (kind == 'x'), rest)

def scanBraced (f : Flags) :
    Nat → List Char → List Char → Except PatternError (List Char × List Char)
  | fuel + 1, acc, s =>
    match f.skip s with
    | '\x7d' :: r => .ok (acc, r)
    | c :: r => scanBraced f fuel (acc ++ [c]) r
    | [] => .error .escape
  | 0, _, _ => .error .escape

def splitOnce (sep : List Char) : List Char → Option (List Char × List Char)
  | [] => none
  | c :: r =>
    if sep.isPrefixOf (c :: r) then some ([], (c :: r).drop sep.length)
    else (splitOnce sep r).map fun p => (c :: p.1, p.2)

def propertySet (d : Dialect) (name : List Char) : Except PatternError CharSet :=
  let of (property value : List Char) (negated : Bool) : Except PatternError CharSet :=
    match d.valued? (String.ofList property) (String.ofList value) with
    | some s => .ok (if negated then .compl s else s)
    | none => .error .property
  match splitOnce "!=".toList name, splitOnce ":".toList name, splitOnce "=".toList name with
  | some (p, v), _, _ => of p v true
  | none, some (p, v), _ => of p v false
  | none, none, some (p, v) => of p v false
  | none, none, none =>
    match d.named? (String.ofList name) with
    | some s => .ok s
    | none => .error .property

def Flags.widen (f : Flags) (s : CharSet) : CharSet :=
  if f.ignoreCase then .folded f.dialect.variants s else s

def scanProperty (f : Flags) (negated : Bool) (s : List Char) :
    Except PatternError (Atom × List Char) := do
  let (name, rest) ← match f.skip s with
    | '\x7b' :: r => scanBraced f (r.length + 1) [] r
    | '\\' :: _ => .error .property
    | c :: r => .ok ([c], f.skip r)
    | [] => .error .escape
  if !f.wide then .error .property
  let set := f.widen (← propertySet f.dialect name)
  return (.set (if negated then .compl set else set), rest)

/-- Digits, blanks or word characters; outside wide mode only seven-bit ones, and no complement. -/
def shorthand (f : Flags) (c : Char) : Except PatternError CharSet :=
  let wide : CharSet := match c.toLower with
    | 'd' => f.dialect.digit
    | 's' => f.dialect.space
    | _ => f.dialect.word
  let narrow : CharSet := match c.toLower with
    | 'd' => .ofRanges [(48, 57)]
    | 's' => .ofRanges [(9, 13), (32, 32)]
    | _ => .ofRanges [(48, 57), (65, 90), (95, 95), (97, 122)]
  if f.wide then .ok (if c.isUpper then .compl wide else wide)
  else if c.isUpper then .error .notText else .ok narrow

def isMeta (c : Char) : Bool := c ∈ "\\.+*?()|[]\x7b\x7d^$#&-~".toList

def isEscapable (c : Char) : Bool :=
  isMeta c || (c.toNat < 128 && !c.isAlphanum && c != '<' && c != '>')

def Flags.wordChar (f : Flags) : Char → Bool :=
  if f.wide then f.dialect.word.mem else CharSet.isAsciiWordChar

def scanBoundaryName (f : Flags) : Nat → List Char → List Char → List Char × List Char
  | fuel + 1, acc, c :: r =>
    if c.isAlpha || c == '-' then scanBoundaryName f fuel (acc ++ [c]) (f.skip r) else (acc, c :: r)
  | _, acc, s => (acc, s)

/-- A word boundary; a name in braces after it picks one side. Braces that hold no name are left
to be read as a repetition. -/
def scanBoundary (f : Flags) (s : List Char) : Except PatternError (Atom × List Char) :=
  match s with
  | '\x7b' :: r =>
    match f.skip r with
    | [] => .error .wordBoundary
    | c :: r' =>
      if c.isAlpha || c == '-' then
        match scanBoundaryName f (r.length + 1) [] (c :: r') with
        | (name, '\x7d' :: rest) =>
          match String.ofList name with
          | "start" => .ok (.look (.wordStart f.wordChar), rest)
          | "end" => .ok (.look (.wordStop f.wordChar), rest)
          | "start-half" => .ok (.look (.noWordBefore f.wordChar), rest)
          | "end-half" => .ok (.look (.noWordAfter f.wordChar), rest)
          | _ => .error .wordBoundary
        | _ => .error .wordBoundary
      else .ok (.look (.boundary f.wordChar), s)
  | s => .ok (.look (.boundary f.wordChar), s)

def scanEscape (f : Flags) (s : List Char) : Except PatternError (Atom × List Char) :=
  match s with
  | [] => .error .escape
  | c :: r =>
    if c.isDigit then .error .backreference
    else if c = 'x' ∨ c = 'u' ∨ c = 'U' then scanHex f c r
    else if c = 'p' ∨ c = 'P' then scanProperty f (c == 'P') r
    else if c ∈ "dswDSW".toList then do .ok (.set (← shorthand f c), r)
    else if isEscapable c then .ok (.char c false, r)
    else match c with
      | 'a' => .ok (.char '\x07' false, r)
      | 'f' => .ok (.char '\x0c' false, r)
      | 't' => .ok (.char '\t' false, r)
      | 'n' => .ok (.char '\n' false, r)
      | 'r' => .ok (.char '\r' false, r)
      | 'v' => .ok (.char '\x0b' false, r)
      | 'A' => .ok (.look .start, r)
      | 'z' => .ok (.look .stop, r)
      | 'b' => scanBoundary f r
      | 'B' => .ok (.look (.noBoundary f.wordChar), r)
      | '<' => .ok (.look (.wordStart f.wordChar), r)
      | '>' => .ok (.look (.wordStop f.wordChar), r)
      | _ => .error .escape

structure ClassPart where
  set : CharSet
  depth : Nat

def ClassPart.join (parts : List ClassPart) : ClassPart :=
  match parts with
  | [] => ⟨.none, 0⟩
  | [p] => p
  | p :: ps => ⟨ps.foldl (fun s q => .union s q.set) p.set,
      1 + ps.foldl (fun d q => max d q.depth) p.depth⟩

inductive ClassOp where
  | inter
  | minus
  | either

/-- Case is widened on both sides before sets are combined. -/
def Flags.combine (f : Flags) (op : ClassOp) (a b : ClassPart) : ClassPart :=
  let x := f.widen a.set
  let y := f.widen b.set
  let set : CharSet := match op with
    | .inter => .inter x y
    | .minus => .minus x y
    | .either => .either x y
  ⟨set, 1 + max a.depth b.depth⟩

def Flags.close (f : Flags) (pending : Option (ClassOp × ClassPart)) (parts : List ClassPart) :
    ClassPart :=
  match pending with
  | some (op, left) => f.combine op left (ClassPart.join parts)
  | none => ClassPart.join parts

/-- A whole class: widened, then complemented. Outside wide mode it may hold seven-bit
characters only. -/
def Flags.finish (f : Flags) (negated : Bool) (p : ClassPart) : Except PatternError ClassPart :=
  let set := if f.ignoreCase then
      (if f.wide then CharSet.folded f.dialect.variants p.set
        else .union p.set (.inter (.folded f.dialect.variants p.set) (.range 0 127)))
    else p.set
  let set := if negated then CharSet.compl set else set
  if !f.wide && (List.range 128).any (fun n => set.mem (Char.ofNat (128 + n))) then
    .error .notText
  else .ok ⟨set, 1 + p.depth⟩

def scanClassAtom (f : Flags) (s : List Char) : Except PatternError (Atom × List Char) :=
  match s with
  | '\\' :: r => scanEscape f r
  | c :: r => .ok (.char c false, r)
  | [] => .error .classUnclosed

def classChar (f : Flags) : Atom → Except PatternError Char
  | .char c asByte => if !f.wide && !asByte && 128 ≤ c.toNat then .error .notText else .ok c
  | _ => .error .classRange

def scanClassItem (f : Flags) (s : List Char) : Except PatternError (ClassPart × List Char) := do
  let (first, rest) ← scanClassAtom f s
  let rest := f.skip rest
  let alone : Except PatternError (ClassPart × List Char) :=
    match first with
    | .char .. => do .ok (⟨.single (← classChar f first), 0⟩, rest)
    | .set set => .ok (⟨set, 0⟩, rest)
    | .look _ => .error .classItem
  match rest with
  | [] => .error .classUnclosed
  | '-' :: r =>
    match f.skip r with
    | ']' :: _ | '-' :: _ => alone
    | [] => .error .classUnclosed
    | r => do
      let (second, rest) ← scanClassAtom f r
      let a ← classChar f first
      let b ← classChar f second
      if a.toNat ≤ b.toNat then .ok (⟨.range a.toNat b.toNat, 0⟩, rest) else .error .classRange
  | _ => alone

def scanAsciiClass (f : Flags) (s : List Char) : Option (ClassPart × List Char) :=
  match s with
  | ':' :: r =>
    let (negated, r) := match r with
      | '^' :: r => (true, r)
      | r => (false, r)
    let name := r.takeWhile (· ≠ ':')
    match r.dropWhile (· ≠ ':') with
    | ':' :: ']' :: rest =>
      (CharSet.asciiNamed? (String.ofList name)).map fun ranges =>
        let set := f.widen (.ofRanges ranges)
        (⟨if negated then .compl set else set, 0⟩, rest)
    | _ => none
  | _ => none

/-- Hyphens at the start of a class, and a closing bracket in first place, are plain. -/
def scanClassStart (f : Flags) : Nat → List ClassPart → List Char → List ClassPart × List Char
  | fuel + 1, parts, '-' :: r => scanClassStart f fuel (parts ++ [⟨.single '-', 0⟩]) (f.skip r)
  | _, [], ']' :: r => ([⟨.single ']', 0⟩], f.skip r)
  | _, parts, s => (parts, s)

structure ClassFrame where
  negated : Bool
  pending : Option (ClassOp × ClassPart)
  parts : List ClassPart

def openClass (f : Flags) (s : List Char) : Except PatternError (ClassFrame × List Char) :=
  let s := f.skip s
  let (negated, s) := match s with
    | '^' :: r => (true, f.skip r)
    | r => (false, r)
  let (parts, s) := scanClassStart f s.length [] s
  if s = [] then .error .classUnclosed else .ok (⟨negated, none, parts⟩, s)

/-- Reads a class to its end; classes nested in it keep the outer ones on a stack. -/
def scanClass (f : Flags) :
    Nat → ClassFrame → List ClassFrame → List Char → Except PatternError (ClassPart × List Char)
  | 0, _, _, _ => .error .classUnclosed
  | fuel + 1, top, outer, s =>
    let operator (op : ClassOp) (r : List Char) : Except PatternError (ClassPart × List Char) :=
      scanClass f fuel ⟨top.negated, some (op, f.close top.pending top.parts), []⟩ outer r
    let push (p : ClassPart) (r : List Char) : Except PatternError (ClassPart × List Char) :=
      scanClass f fuel { top with parts := top.parts ++ [p] } outer r
    match f.skip s with
    | [] => .error .classUnclosed
    | '[' :: r =>
      match scanAsciiClass f r with
      | some (p, rest) => push p rest
      | none => do
        let (frame, rest) ← openClass f r
        scanClass f fuel frame (top :: outer) rest
    | ']' :: r => do
      let whole ← f.finish top.negated (f.close top.pending top.parts)
      match outer with
      | [] => .ok (whole, r)
      | parent :: outer => scanClass f fuel { parent with parts := parent.parts ++ [whole] } outer r
    | '&' :: '&' :: r => operator .inter r
    | '-' :: '-' :: r => operator .minus r
    | '~' :: '~' :: r => operator .either r
    | s => do
      let (p, rest) ← scanClassItem f s
      push p rest

def scanDigits (f : Flags) : Nat → List Char → List Char × List Char
  | fuel + 1, c :: r =>
    if c.isDigit then
      let (ds, rest) := scanDigits f fuel (f.skip r)
      (c :: ds, rest)
    else ([], c :: r)
  | _, s => ([], s)

def scanCount (f : Flags) (s : List Char) : Except PatternError (Option Nat × List Char) :=
  let s := s.dropWhile Text.isBlank
  let (ds, rest) := scanDigits f s.length s
  let rest := rest.dropWhile Text.isBlank
  if ds = [] then .ok (none, rest)
  else if 0x1_0000_0000 ≤ Decimal.ofDigits ds then .error .repetition
  else .ok (some (Decimal.ofDigits ds), rest)

def scanBounds (f : Flags) (s : List Char) :
    Except PatternError ((Nat × Option Nat) × List Char) := do
  let (least, rest) ← scanCount f (f.skip s)
  let some least := least | throw .repetition
  match rest with
  | ',' :: r =>
    match f.skip r with
    | '\x7d' :: rest => return ((least, none), rest)
    | r =>
      let (most, rest) ← scanCount f r
      let some most := most | throw .repetition
      match rest with
      | '\x7d' :: rest =>
        if least ≤ most then return ((least, some most), rest) else throw .repetition
      | _ => throw .repetition
  | '\x7d' :: rest => return ((least, some least), rest)
  | _ => throw .repetition

structure Piece where
  pattern : Pattern
  depth : Nat
  repeatable : Bool

def Piece.sequence (items : List Piece) : Pattern × Nat :=
  match items with
  | [] => (.empty, 0)
  | [p] => (p.pattern, p.depth)
  | ps => (.ofList (ps.map (·.pattern)), 1 + ps.foldl (fun d p => max d p.depth) 0)

/-- An open group: the flags to go back to, and its branches and items so far. -/
structure Group where
  outer : Flags
  branches : List (Pattern × Nat)
  items : List Piece

def Group.close (g : Group) : Pattern × Nat :=
  match g.branches ++ [Piece.sequence g.items] with
  | [] => (.empty, 0)
  | [b] => b
  | b :: bs => (.oneOf b.1 (bs.map (·.1)), 1 + bs.foldl (fun d q => max d q.2) b.2)

structure Reader where
  flags : Flags
  names : List String
  top : Group
  below : List Group

def Reader.push (r : Reader) (p : Pattern) (depth : Nat) : Reader :=
  { r with top := { r.top with items := r.top.items ++ [⟨p, depth, true⟩] } }

def Reader.wrap (r : Reader) (least : Nat) (most : Option Nat) : Except PatternError Reader :=
  match r.top.items.getLast? with
  | some p =>
    if p.repeatable then
      let items := r.top.items.dropLast ++ [⟨.repeated p.pattern least most, 1 + p.depth, true⟩]
      .ok { r with top := { r.top with items } }
    else .error .nothingToRepeat
  | none => .error .nothingToRepeat

/-- A question mark right after a repetition makes it lazy, which changes no answer here. -/
def dropLazy : List Char → List Char
  | '?' :: r => r
  | r => r

def literal (f : Flags) (c : Char) : CharSet :=
  if !f.ignoreCase then .single c
  else if f.wide then .folded f.dialect.variants (.single c)
  else if c.isAlpha then .union (.single c.toLower) (.single c.toUpper)
  else .single c

def Reader.atom (r : Reader) : Atom → Except PatternError Reader
  | .char c asByte =>
    if asByte && !r.flags.wide && 128 ≤ c.toNat then .error .notText
    else .ok (r.push (.char (literal r.flags c)) 0)
  | .set s => .ok (r.push (.char s) 0)
  | .look l => .ok (r.push (.look l) 0)

def Reader.dot (r : Reader) : Except PatternError Reader :=
  if !r.flags.wide then .error .notText
  else
    let set : CharSet :=
      if r.flags.dotAll then .any
      else if r.flags.crlf then .compl (.union (.single '\r') (.single '\n'))
      else .compl (.single '\n')
    .ok (r.push (.char set) 0)

def Flags.caret (f : Flags) : Look := if f.multiLine then .lineStart f.crlf else .start

def Flags.dollar (f : Flags) : Look := if f.multiLine then .lineStop f.crlf else .stop

def Reader.step (r : Reader) (s : List Char) : Except PatternError (Reader × List Char) :=
  match s with
  | [] => .ok (r, [])
  | '(' :: s => do
    match ← scanOpening r.flags s with
    | (.switch f, rest) =>
      let items := r.top.items ++ [⟨.empty, 0, false⟩]
      .ok ({ r with flags := f, top := { r.top with items } }, rest)
    | (.group f name, rest) =>
      let names := r.names ++ name.toList
      if name.any (· ∈ r.names) then .error .groupName
      else
        .ok ({ r with flags := f, names, top := ⟨r.flags, [], []⟩, below := r.top :: r.below },
          rest)
  | ')' :: s =>
    match r.below with
    | [] => .error .groupUnopened
    | parent :: below =>
      let (p, depth) := r.top.close
      let reader : Reader := { r with flags := r.top.outer, top := parent, below }
      .ok (reader.push p (1 + depth), s)
  | '|' :: s =>
    let branches := r.top.branches ++ [Piece.sequence r.top.items]
    .ok ({ r with top := { r.top with branches, items := [] } }, s)
  | '[' :: s => do
    let (frame, rest) ← openClass r.flags s
    let (p, rest) ← scanClass r.flags (s.length + 1) frame [] rest
    .ok (r.push (.char p.set) p.depth, rest)
  | '?' :: s => do .ok (← r.wrap 0 (some 1), dropLazy s)
  | '*' :: s => do .ok (← r.wrap 0 none, dropLazy s)
  | '+' :: s => do .ok (← r.wrap 1 none, dropLazy s)
  | '\x7b' :: s => do
    let reader ← r.wrap 0 none
    let ((least, most), rest) ← scanBounds r.flags s
    let items := reader.top.items.dropLast ++
      (r.top.items.getLast?.map fun p =>
        (⟨.repeated p.pattern least most, 1 + p.depth, true⟩ : Piece)).toList
    .ok ({ r with top := { r.top with items } }, dropLazy (r.flags.skip rest))
  | '.' :: s => do .ok (← r.dot, s)
  | '^' :: s => .ok (r.push (.look r.flags.caret) 0, s)
  | '$' :: s => .ok (r.push (.look r.flags.dollar) 0, s)
  | '\\' :: s => do
    let (a, rest) ← scanEscape r.flags s
    .ok (← r.atom a, rest)
  | c :: s => do .ok (← r.atom (.char c false), s)

def Reader.run : Nat → Reader → List Char → Except PatternError Reader
  | 0, r, _ => .ok r
  | fuel + 1, r, s =>
    match r.flags.skip s with
    | [] => .ok r
    | s => do
      let (r, rest) ← r.step s
      r.run fuel rest

def ofString (d : Dialect) (s : String) : Except PatternError Pattern := do
  let f := Flags.initial d
  let r ← Reader.run (s.toList.length + 1) ⟨f, [], ⟨f, [], []⟩, []⟩ s.toList
  if r.below ≠ [] then throw .groupUnclosed
  let (p, depth) := r.top.close
  if d.depthLimit < depth then throw .tooDeep
  else if d.fits p then return p
  else throw .tooLarge

end Testbed.Pattern
