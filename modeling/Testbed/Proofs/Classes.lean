import Testbed.Proofs.Escapes

/-!
Reading a bracketed class with more text behind it. What closes the groups of a pattern closes no
class, so a class that the pattern leaves open stays open.
-/
namespace Testbed.Pattern

variable {t u s r : List Char} {f : Flags}

theorem leaves_scanClassAtom (f : Flags) (s : List Char) : Leaves (scanClassAtom f s) s := by
  unfold scanClassAtom
  split
  · exact (leaves_scanEscape f _).mono (List.suffix_cons _ _)
  · exact .ok (List.suffix_cons _ _)
  · exact .error

theorem scanClassAtom_cases (ht : ∀ c ∈ t, c = '$') (f : Flags) (s : List Char) :
    Follows t t (scanClassAtom f s) (scanClassAtom f (s ++ ')' :: t)) ∨
      Braced f t (scanClassAtom f s) (scanClassAtom f (s ++ ')' :: t)) := by
  rcases s with _ | ⟨c, r⟩
  · exact .inl (.lost _ _ (List.suffix_refl t))
  · by_cases hc : c = '\\'
    · subst hc
      exact scanEscape_cases ht f r
    · rw [List.cons_append]
      simp only [scanClassAtom]
      exact .inl (.kept _ r)

def classAlone (f : Flags) (first : Atom) (rest : List Char) :
    Except PatternError (ClassPart × List Char) :=
  match first with
  | .char .. => do .ok (⟨.single (← classChar f first), 0⟩, rest)
  | .set set => .ok (⟨set, 0⟩, rest)
  | .look _ => .error .classItem

def classBounds (f : Flags) (first second : Atom) (rest : List Char) :
    Except PatternError (ClassPart × List Char) := do
  let a ← classChar f first
  let b ← classChar f second
  if a.toNat ≤ b.toNat then .ok (⟨.range a.toNat b.toNat, 0⟩, rest) else .error .classRange

def classRange (f : Flags) (first : Atom) (s : List Char) :
    Except PatternError (ClassPart × List Char) := do
  let (second, rest) ← scanClassAtom f s
  classBounds f first second rest

def afterHyphen (f : Flags) (first : Atom) (r : List Char) :
    List Char → Except PatternError (ClassPart × List Char)
  | ']' :: _ | '-' :: _ => classAlone f first ('-' :: r)
  | [] => .error .classUnclosed
  | s => classRange f first s

def afterAtom (f : Flags) (first : Atom) : List Char → Except PatternError (ClassPart × List Char)
  | [] => .error .classUnclosed
  | '-' :: r => afterHyphen f first r (f.skip r)
  | s => classAlone f first s

theorem afterAtom_other (f : Flags) (first : Atom) {c : Char} (hc : c ≠ '-') (r : List Char) :
    afterAtom f first (c :: r) = classAlone f first (c :: r) := by
  unfold afterAtom
  split
  · next heq => cases heq
  · next heq => exact absurd (List.cons.inj heq).1 hc
  · rfl

theorem scanClassItem_eq (f : Flags) (s : List Char) :
    scanClassItem f s = (do
      let (first, rest) ← scanClassAtom f s
      afterAtom f first (f.skip rest)) := by
  unfold scanClassItem
  congr 1
  funext p
  obtain ⟨first, rest⟩ := p
  dsimp only
  generalize f.skip rest = w
  rcases w with _ | ⟨c, r⟩
  · rfl
  · by_cases hc : c = '-'
    · subst hc
      rfl
    · rw [afterAtom_other f first hc]
      split
      · next heq => cases heq
      · next heq => exact absurd (List.cons.inj heq).1 hc
      · rfl

theorem steady_classAlone (f : Flags) (first : Atom) : Steady t u (classAlone f first) := by
  cases first with
  | char c asByte => exact .first fun c => .ok _
  | set set => exact .ok _
  | look l => exact .error _

theorem steady_classBounds (f : Flags) (first second : Atom) :
    Steady t u (classBounds f first second) := by
  refine .first fun a => .first fun b => ?_
  split
  · exact .ok _
  · exact .error _

theorem leaves_classRange (f : Flags) (first : Atom) (s : List Char) :
    Leaves (classRange f first s) s :=
  (leaves_scanClassAtom f s).bind fun second rest =>
    (steady_classBounds (t := []) (u := []) f first second).leaves rest

theorem follows_classRange (ht : ∀ c ∈ t, c = '$') (f : Flags) (first : Atom) (s : List Char) :
    Follows t t (classRange f first s) (classRange f first (s ++ ')' :: t)) := by
  rcases scanClassAtom_cases ht f s with h | ⟨e, l, w, h, h', -⟩
  · exact h.bind (fun second => (steady_classBounds f first second).follows) fun second =>
      (steady_classBounds (t := t) (u := t) f first second).leaves
  · -- A boundary is no end of a range.
    rw [classRange, classRange, h, h']
    show Follows t t (.error e) (classBounds f first (.look l) ('\x7b' :: w))
    unfold classBounds
    cases classChar f first <;> exact .failed _ _

theorem afterHyphen_cases (f : Flags) (first : Atom) (c : Char) :
    (∀ r w, afterHyphen f first r (c :: w) = classAlone f first ('-' :: r)) ∨
      ∀ r w, afterHyphen f first r (c :: w) = classRange f first (c :: w) := by
  by_cases hbracket : c = ']'
  · subst hbracket
    exact .inl fun _ _ => rfl
  · by_cases hhyphen : c = '-'
    · subst hhyphen
      exact .inl fun _ _ => rfl
    · refine .inr fun r w => ?_
      unfold afterHyphen
      split
      · next heq => exact absurd (List.cons.inj heq).1 hbracket
      · next heq => exact absurd (List.cons.inj heq).1 hhyphen
      · next heq => cases heq
      · rfl

theorem leaves_afterAtom (f : Flags) (first : Atom) (s : List Char) :
    Leaves (afterAtom f first s) s := by
  rcases s with _ | ⟨c, r⟩
  · exact .error
  · by_cases hc : c = '-'
    · subst hc
      have hr := skip_suffix f r
      show Leaves (afterHyphen f first r (f.skip r)) ('-' :: r)
      rcases hw : f.skip r with _ | ⟨d, w⟩
      · exact .error
      · rcases afterHyphen_cases f first d with h | h <;> rw [h]
        · exact (steady_classAlone (t := []) (u := []) f first).leaves _
        · rw [hw] at hr
          exact (leaves_classRange f first _).mono (hr.trans (List.suffix_cons _ r))
    · rw [afterAtom_other f first hc]
      exact (steady_classAlone (t := []) (u := []) f first).leaves _

theorem follows_afterAtom (ht : ∀ c ∈ t, c = '$') (f : Flags) (first : Atom) (s : List Char) :
    Follows t (')' :: t) (afterAtom f first s) (afterAtom f first (s ++ ')' :: t)) := by
  rcases s with _ | ⟨c, r⟩
  · exact .of_error (leaves_afterAtom f first _)
  · by_cases hc : c = '-'
    · subst hc
      show Follows t (')' :: t) (afterHyphen f first r (f.skip r))
        (afterHyphen f first (r ++ ')' :: t) (f.skip (r ++ ')' :: t)))
      rcases skip_append ht f r with h | ⟨h, h'⟩
      · rw [h]
        rcases hw : f.skip r with _ | ⟨d, w⟩
        · exact .of_error (leaves_classRange f first (')' :: t))
        · rw [List.cons_append]
          rcases afterHyphen_cases f first d with h | h <;> rw [h, h]
          · exact (steady_classAlone f first).follows ('-' :: r)
          · exact (follows_classRange ht f first (d :: w)).mono (List.suffix_cons _ t)
      · rw [h, h']
        exact .failed _ _
    · rw [List.cons_append, afterAtom_other f first hc, afterAtom_other f first hc]
      exact (steady_classAlone f first).follows (c :: r)

theorem steady_scanClassItem (ht : ∀ c ∈ t, c = '$') (f : Flags) :
    Steady t (')' :: t) (scanClassItem f) := by
  have hafter : ∀ first, Steady t (')' :: t) fun rest => afterAtom f first (f.skip rest) :=
    fun first => .skip ht f ⟨leaves_afterAtom f first, follows_afterAtom ht f first⟩
  rw [funext (scanClassItem_eq f)]
  constructor
  · intro s
    exact (leaves_scanClassAtom f s).bind fun first => (hafter first).leaves
  · intro s
    rcases scanClassAtom_cases ht f s with h | ⟨e, l, w, h, h', -⟩
    · exact (h.mono (List.suffix_cons _ t)).bind (fun first => (hafter first).follows) fun first =>
        (hafter first).leaves
    · -- A boundary is no item either.
      rw [h, h']
      have hskip : f.skip ('\x7b' :: w) = '\x7b' :: w := by
        unfold Flags.skip
        split <;> rfl
      show Follows t (')' :: t) (.error e) (afterAtom f (.look l) (f.skip ('\x7b' :: w)))
      rw [hskip]
      exact .failed _ _

def asciiNamed (f : Flags) (negated : Bool) (s : List Char) : Option (ClassPart × List Char) :=
  match s.dropWhile (· ≠ ':') with
  | ':' :: ']' :: rest =>
    (CharSet.asciiNamed? (String.ofList (s.takeWhile (· ≠ ':')))).map fun ranges =>
      (⟨if negated then .compl (f.widen (.ofRanges ranges)) else f.widen (.ofRanges ranges), 0⟩,
        rest)
  | _ => none

theorem asciiNamed_suffix (f : Flags) (negated : Bool) (s : List Char) {p : ClassPart × List Char}
    (h : asciiNamed f negated s = some p) : p.2 <:+ s := by
  unfold asciiNamed at h
  split at h
  · next rest heq =>
    obtain ⟨ranges, -, rfl⟩ := Option.map_eq_some_iff.mp h
    have hrest : ':' :: ']' :: rest <:+ s := heq ▸ List.dropWhile_suffix _
    exact ((List.suffix_cons _ _).trans (List.suffix_cons _ _)).trans hrest
  · cases h

theorem asciiNamed_append (ht : ∀ c ∈ t, c = '$') (f : Flags) (negated : Bool) (s : List Char) :
    asciiNamed f negated (s ++ ')' :: t) =
      (asciiNamed f negated s).map fun p => (p.1, p.2 ++ ')' :: t) := by
  have hcases := dropWhile_cases ht (p := (· ≠ ':')) (by decide) (by decide) s
  unfold asciiNamed
  rcases hcases with ⟨h, h'⟩ | ⟨c, r, hc, h, h', htake⟩
  · rw [h, h']
    rfl
  · obtain rfl : c = ':' := by simpa using hc
    rw [h, h', htake]
    rcases r with _ | ⟨d, r⟩
    · rfl
    · by_cases hd : d = ']'
      · subst hd
        show Option.map _ _ = Option.map _ (Option.map _ _)
        rw [Option.map_map]
        rfl
      · rw [List.cons_append]
        split
        · next heq => exact absurd (List.cons.inj (List.cons.inj heq).2).1 hd
        · split
          · next heq => exact absurd (List.cons.inj (List.cons.inj heq).2).1 hd
          · rfl

def classSign : List Char → Bool × List Char
  | '^' :: r => (true, r)
  | r => (false, r)

theorem classSign_suffix (s : List Char) : (classSign s).2 <:+ s := by
  unfold classSign
  split
  · exact List.suffix_cons _ _
  · exact List.suffix_refl _

theorem classSign_append (s : List Char) :
    classSign (s ++ ')' :: t) = ((classSign s).1, (classSign s).2 ++ ')' :: t) := by
  rcases s with _ | ⟨c, r⟩
  · rfl
  · by_cases hc : c = '^'
    · subst hc
      rfl
    · have hother : ∀ r, classSign (c :: r) = (false, c :: r) := fun r => by
        unfold classSign
        split
        · next heq => exact absurd (List.cons.inj heq).1 hc
        · rfl
      rw [List.cons_append, hother, hother]
      rfl

theorem scanAsciiClass_colon (f : Flags) (r : List Char) :
    scanAsciiClass f (':' :: r) = asciiNamed f (classSign r).1 (classSign r).2 := by
  rfl

theorem scanAsciiClass_other (f : Flags) (hs : ∀ r, s ≠ ':' :: r) : scanAsciiClass f s = none := by
  unfold scanAsciiClass
  split
  · next r => exact absurd rfl (hs r)
  · rfl

theorem scanAsciiClass_suffix (f : Flags) (s : List Char) {p : ClassPart × List Char}
    (h : scanAsciiClass f s = some p) : p.2 <:+ s := by
  by_cases hs : ∃ r, s = ':' :: r
  · obtain ⟨r, rfl⟩ := hs
    rw [scanAsciiClass_colon] at h
    exact (asciiNamed_suffix f _ _ h).trans ((classSign_suffix r).trans (List.suffix_cons _ r))
  · rw [scanAsciiClass_other f fun r hr => hs ⟨r, hr⟩] at h
    cases h

theorem scanAsciiClass_append (ht : ∀ c ∈ t, c = '$') (f : Flags) (s : List Char) :
    scanAsciiClass f (s ++ ')' :: t) =
      (scanAsciiClass f s).map fun p => (p.1, p.2 ++ ')' :: t) := by
  by_cases hs : ∃ r, s = ':' :: r
  · obtain ⟨r, rfl⟩ := hs
    rw [List.cons_append, scanAsciiClass_colon, scanAsciiClass_colon, classSign_append]
    exact asciiNamed_append ht f _ _
  · have hs' : ∀ r, s ++ ')' :: t ≠ ':' :: r := by
      cases s with
      | nil => exact fun r hr => by cases hr
      | cons c s => exact fun r hr => hs ⟨s, by rw [(List.cons.inj hr).1]⟩
    rw [scanAsciiClass_other f fun r hr => hs ⟨r, hr⟩, scanAsciiClass_other f hs']
    rfl

theorem scanClassStart_nil (f : Flags) (n : Nat) (parts : List ClassPart) :
    scanClassStart f n parts [] = (parts, []) := by
  cases n <;> cases parts <;> rfl

theorem scanClassStart_other (f : Flags) (n : Nat) {parts : List ClassPart} {c : Char}
    (hhyphen : c ≠ '-') (hbracket : parts = [] → c ≠ ']') (r : List Char) :
    scanClassStart f n parts (c :: r) = (parts, c :: r) := by
  unfold scanClassStart
  split
  · next heq => exact absurd (List.cons.inj heq).1 hhyphen
  · next heq => exact absurd (List.cons.inj heq).1 (hbracket rfl)
  · rfl

theorem scanClassStart_suffix (f : Flags) (n : Nat) (parts : List ClassPart) (s : List Char) :
    (scanClassStart f n parts s).2 <:+ s := by
  fun_induction scanClassStart f n parts s with
  | case1 n parts r ih => exact ih.trans ((skip_suffix f r).trans (List.suffix_cons _ r))
  | case2 n r => exact (skip_suffix f r).trans (List.suffix_cons _ r)
  | case3 n parts s => exact List.suffix_refl s

theorem follows_scanClassStart (ht : ∀ c ∈ t, c = '$') (f : Flags) {n m : Nat}
    (parts : List ClassPart) (hn : s.length ≤ n) (hm : (s ++ ')' :: t).length ≤ m) :
    Follows t u (.ok (scanClassStart f n parts s))
      (.ok (scanClassStart f m parts (s ++ ')' :: t))) := by
  induction n generalizing parts s m with
  | zero =>
    obtain rfl := List.eq_nil_of_length_eq_zero (Nat.le_zero.mp hn)
    rw [scanClassStart_nil, List.nil_append,
      scanClassStart_other f m (by decide) fun _ => by decide]
    exact .kept parts []
  | succ n ih =>
    rw [List.length_append, List.length_cons] at hm
    obtain ⟨m, rfl⟩ : ∃ k, m = k + 1 := ⟨m - 1, by omega⟩
    rcases s with _ | ⟨c, r⟩
    · rw [scanClassStart_nil, List.nil_append,
        scanClassStart_other f _ (by decide) fun _ => by decide]
      exact .kept parts []
    · rw [List.length_cons] at hn hm
      have hlen := (skip_suffix f r).length_le
      rw [List.cons_append]
      by_cases hhyphen : c = '-'
      · subst hhyphen
        rw [scanClassStart, scanClassStart]
        rcases skip_append ht f r with h | ⟨h, h'⟩
        · rw [h]
          exact ih _ (by omega) (by simp; omega)
        · rw [h, h', scanClassStart_nil, scanClassStart_nil]
          exact .drained _
      · by_cases hbracket : parts = [] → c ≠ ']'
        · rw [scanClassStart_other f _ hhyphen hbracket, scanClassStart_other f _ hhyphen hbracket]
          exact .kept parts (c :: r)
        · obtain ⟨rfl, rfl⟩ : parts = [] ∧ c = ']' := by simpa using hbracket
          exact ((Steady.ok _).skip ht f).follows r

def classFrame (negated : Bool) (p : List ClassPart × List Char) :
    Except PatternError (ClassFrame × List Char) :=
  if p.2 = [] then .error .classUnclosed else .ok (⟨negated, none, p.1⟩, p.2)

def openClassAt (f : Flags) (negated : Bool) (s : List Char) :
    Except PatternError (ClassFrame × List Char) :=
  classFrame negated (scanClassStart f s.length [] s)

def openClassSigned (f : Flags) : List Char → Except PatternError (ClassFrame × List Char)
  | '^' :: r => openClassAt f true (f.skip r)
  | s => openClassAt f false s

theorem openClassSigned_other (f : Flags) (hs : ∀ r, s ≠ '^' :: r) :
    openClassSigned f s = openClassAt f false s := by
  unfold openClassSigned
  split
  · next r => exact absurd rfl (hs r)
  · rfl

theorem openClass_eq (f : Flags) (s : List Char) :
    openClass f s = openClassSigned f (f.skip s) := by
  unfold openClass
  dsimp only
  split
  · next r heq =>
    rw [heq]
    rfl
  · next hs =>
    rw [openClassSigned_other f hs]
    rfl

theorem steady_openClassAt (ht : ∀ c ∈ t, c = '$') (f : Flags) (negated : Bool) :
    Steady t (')' :: t) (openClassAt f negated) := by
  have hleaves : ∀ parts r, Leaves (classFrame negated (parts, r)) r := by
    intro parts r
    unfold classFrame
    split
    · exact .error
    · exact .ok (List.suffix_refl r)
  constructor
  · intro s
    exact (hleaves _ _).mono (scanClassStart_suffix f s.length [] s)
  · intro s
    have hstart := follows_scanClassStart (u := ')' :: t) ht f [] (Nat.le_refl s.length)
      (Nat.le_refl (s ++ ')' :: t).length)
    refine hstart.bind (k := classFrame negated) (fun parts r => ?_) hleaves
    rcases r with _ | ⟨c, r⟩
    · exact .of_error (hleaves parts _)
    · exact .kept _ (c :: r)

theorem steady_openClass (ht : ∀ c ∈ t, c = '$') (f : Flags) :
    Steady t (')' :: t) (openClass f) := by
  have hat := steady_openClassAt ht f
  rw [funext (openClass_eq f)]
  exact .skip ht f (.head '^' (by decide) (fun _ => rfl) (fun _ => openClassSigned_other f)
    ((hat true).skip ht f) (hat false))

section ClassStep

variable (f : Flags)
  (next : ClassFrame → List ClassFrame → List Char → Except PatternError (ClassPart × List Char))
  (top : ClassFrame) (outer : List ClassFrame)

def classNested (r : List Char) : Except PatternError (ClassPart × List Char) :=
  match scanAsciiClass f r with
  | some (p, rest) => next { top with parts := top.parts ++ [p] } outer rest
  | none => do
    let (frame, rest) ← openClass f r
    next frame (top :: outer) rest

def classEnd (r : List Char) : Except PatternError (ClassPart × List Char) := do
  let whole ← f.finish top.negated (f.close top.pending top.parts)
  match outer with
  | [] => .ok (whole, r)
  | parent :: outer => next { parent with parts := parent.parts ++ [whole] } outer r

def classItem (s : List Char) : Except PatternError (ClassPart × List Char) := do
  let (p, rest) ← scanClassItem f s
  next { top with parts := top.parts ++ [p] } outer rest

def classStep : List Char → Except PatternError (ClassPart × List Char)
  | [] => .error .classUnclosed
  | '[' :: r => classNested f next top outer r
  | ']' :: r => classEnd f next top outer r
  | '&' :: '&' :: r => next ⟨top.negated, some (.inter, f.close top.pending top.parts), []⟩ outer r
  | '-' :: '-' :: r => next ⟨top.negated, some (.minus, f.close top.pending top.parts), []⟩ outer r
  | '~' :: '~' :: r => next ⟨top.negated, some (.either, f.close top.pending top.parts), []⟩ outer r
  | s => classItem f next top outer s

end ClassStep

theorem scanClass_succ (f : Flags) (n : Nat) (top : ClassFrame) (outer : List ClassFrame)
    (s : List Char) : scanClass f (n + 1) top outer s =
      classStep f (scanClass f n) top outer (f.skip s) := by
  rfl

def ClassPlain (s : List Char) : Prop :=
  ∀ pre ∈ [['['], [']'], ['&', '&'], ['-', '-'], ['~', '~']], ¬pre <+: s

theorem ClassPlain.append (h : ClassPlain s) : ClassPlain (s ++ ')' :: t) := fun pre hpre =>
  mt (isPrefix_append_iff (by revert pre; decide)).mp (h pre hpre)

section ClassStep

variable {next next' : ClassFrame → List ClassFrame → List Char →
  Except PatternError (ClassPart × List Char)} {top : ClassFrame} {outer : List ClassFrame}

theorem classStep_plain (h : ClassPlain s) (hne : s ≠ []) :
    classStep f next top outer s = classItem f next top outer s := by
  simp only [ClassPlain, List.forall_mem_cons] at h
  unfold classStep
  split <;> simp_all

theorem class_cases (f : Flags) (s : List Char) :
    s = [] ∨ (∃ r, s = '[' :: r) ∨ (∃ r, s = ']' :: r) ∨
      (∃ c op r, s = c :: c :: r ∧ ∀ next top outer r, classStep f next top outer (c :: c :: r) =
        next ⟨top.negated, some (op, f.close top.pending top.parts), []⟩ outer r) ∨
      (s ≠ [] ∧ ClassPlain s) := by
  by_cases h : ClassPlain s
  · rcases s with _ | ⟨c, s⟩
    · exact .inl rfl
    · exact .inr (.inr (.inr (.inr ⟨List.cons_ne_nil c s, h⟩)))
  · simp only [ClassPlain, not_forall, not_not] at h
    obtain ⟨pre, hpre, r, rfl⟩ := h
    simp only [List.mem_cons, List.not_mem_nil, or_false] at hpre
    rcases hpre with rfl | rfl | rfl | rfl | rfl
    · exact .inr (.inl ⟨r, rfl⟩)
    · exact .inr (.inr (.inl ⟨r, rfl⟩))
    · exact .inr (.inr (.inr (.inl ⟨'&', .inter, r, rfl, fun _ _ _ _ => rfl⟩)))
    · exact .inr (.inr (.inr (.inl ⟨'-', .minus, r, rfl, fun _ _ _ _ => rfl⟩)))
    · exact .inr (.inr (.inr (.inl ⟨'~', .either, r, rfl, fun _ _ _ _ => rfl⟩)))

theorem leaves_classNested (hnext : ∀ top outer s, Leaves (next top outer s) s) (r : List Char) :
    Leaves (classNested f next top outer r) r := by
  unfold classNested
  cases h : scanAsciiClass f r with
  | some p => exact (hnext _ _ _).mono (scanAsciiClass_suffix f r h)
  | none => exact ((steady_openClass (t := []) nofun f).leaves r).bind fun _ rest => hnext _ _ rest

theorem leaves_classEnd (hnext : ∀ top outer s, Leaves (next top outer s) s) (r : List Char) :
    Leaves (classEnd f next top outer r) r := by
  unfold classEnd
  cases f.finish top.negated (f.close top.pending top.parts) with
  | error e => exact .error
  | ok whole =>
    cases outer with
    | nil => exact .ok (List.suffix_refl r)
    | cons parent outer => exact hnext _ _ r

theorem leaves_classItem (hnext : ∀ top outer s, Leaves (next top outer s) s) (s : List Char) :
    Leaves (classItem f next top outer s) s :=
  ((steady_scanClassItem (t := []) nofun f).leaves s).bind fun _ rest => hnext _ _ rest

theorem leaves_classStep (hnext : ∀ top outer s, Leaves (next top outer s) s) (s : List Char) :
    Leaves (classStep f next top outer s) s := by
  rcases class_cases f s with rfl | ⟨r, rfl⟩ | ⟨r, rfl⟩ | ⟨c, op, r, rfl, hop⟩ | ⟨hne, h⟩
  · exact .error
  · exact (leaves_classNested hnext r).mono (List.suffix_cons _ r)
  · exact (leaves_classEnd hnext r).mono (List.suffix_cons _ r)
  · rw [hop]
    exact (hnext _ _ r).mono ((List.suffix_cons _ r).trans (List.suffix_cons _ _))
  · rw [classStep_plain h hne]
    exact leaves_classItem hnext s

end ClassStep

theorem leaves_scanClass (f : Flags) (n : Nat) (top : ClassFrame) (outer : List ClassFrame)
    (s : List Char) : Leaves (scanClass f n top outer s) s := by
  induction n generalizing top outer s with
  | zero => exact .error
  | succ n ih =>
    rw [scanClass_succ]
    exact (leaves_classStep ih _).mono (skip_suffix f s)

theorem classPlain_of_close {c : Char} (hc : c = ')' ∨ c = '$') : ClassPlain (c :: s) := by
  rintro pre hpre ⟨r, hr⟩
  simp only [List.mem_cons, List.not_mem_nil, or_false] at hpre
  rcases hpre with rfl | rfl | rfl | rfl | rfl <;> cases (List.cons.inj hr).1 <;> simp_all

def Unclosed (next : ClassFrame → List ClassFrame → List Char →
    Except PatternError (ClassPart × List Char)) : Prop :=
  ∀ top outer s, (∀ c ∈ s, c = ')' ∨ c = '$') → ∃ e, next top outer s = .error e

theorem unclosed_classStep {next : ClassFrame → List ClassFrame → List Char →
    Except PatternError (ClassPart × List Char)} (hnext : Unclosed next) :
    Unclosed (classStep f next) := by
  intro top outer s hs
  rcases s with _ | ⟨c, s⟩
  · exact ⟨_, rfl⟩
  · rw [classStep_plain (classPlain_of_close (hs c (List.mem_cons_self ..)))
      (List.cons_ne_nil c s), classItem]
    cases hitem : scanClassItem f (c :: s) with
    | error e => exact ⟨e, rfl⟩
    | ok p =>
      have hrest := (steady_scanClassItem (t := []) nofun f).leaves _ p.1 p.2 hitem
      exact hnext _ _ _ fun d hd => hs d (hrest.subset hd)

theorem unclosed_scanClass (f : Flags) (n : Nat) : Unclosed (scanClass f n) := by
  induction n with
  | zero => exact fun _ _ _ _ => ⟨_, rfl⟩
  | succ n ih =>
    intro top outer s hs
    rw [scanClass_succ]
    exact unclosed_classStep ih top outer _ fun c hc => hs c ((skip_suffix f s).subset hc)

section Continued

variable {u : List Char} {next next' : ClassFrame → List ClassFrame → List Char →
    Except PatternError (ClassPart × List Char)} {top : ClassFrame} {outer : List ClassFrame}

theorem Follows.bind_class {α : Type} {x y : Except PatternError (α × List Char)}
    (top : α → ClassFrame) (outer : List ClassFrame) (ht : ∀ c ∈ t, c = '$')
    (hend : Unclosed next) (hend' : Unclosed next') (hx : Follows t (')' :: t) x y)
    (hnext : ∀ a r, x = .ok (a, r) →
      Follows t u (next (top a) outer r) (next' (top a) outer (r ++ ')' :: t))) :
    Follows t u (x >>= fun p => next (top p.1) outer p.2)
      (y >>= fun p => next' (top p.1) outer p.2) := by
  cases hx with
  | kept a r => exact hnext a r rfl
  | drained a =>
    obtain ⟨e, he⟩ := hend (top a) outer [] nofun
    obtain ⟨e', he'⟩ := hend' (top a) outer [] nofun
    show Follows t u (next (top a) outer []) (next' (top a) outer [])
    rw [he, he']
    exact .failed e e'
  | @lost e a r hr =>
    obtain ⟨e', he'⟩ := hend' (top a) outer r fun c hc =>
      (List.mem_cons.mp (hr.subset hc)).imp_right (ht c)
    show Follows t u (.error e) (next' (top a) outer r)
    rw [he']
    exact .failed e e'
  | failed e e' => exact .failed e e'

theorem follows_classNested (ht : ∀ c ∈ t, c = '$') (hend : Unclosed next)
    (hend' : Unclosed next') (hnext : ∀ top outer w, w.length ≤ r.length →
      Follows t u (next top outer w) (next' top outer (w ++ ')' :: t))) :
    Follows t u (classNested f next top outer r)
      (classNested f next' top outer (r ++ ')' :: t)) := by
  unfold classNested
  rw [scanAsciiClass_append ht]
  cases hascii : scanAsciiClass f r with
  | some p => exact hnext _ _ p.2 (scanAsciiClass_suffix f r hascii).length_le
  | none =>
    have hopen := steady_openClass ht f
    exact Follows.bind_class (fun frame => frame) _ ht hend hend' (hopen.follows r)
      fun frame w hw => hnext _ _ w (hopen.leaves r frame w hw).length_le

theorem follows_classEnd (hnext : ∀ top outer,
      Follows t u (next top outer r) (next' top outer (r ++ ')' :: t))) :
    Follows t u (classEnd f next top outer r) (classEnd f next' top outer (r ++ ')' :: t)) := by
  unfold classEnd
  cases f.finish top.negated (f.close top.pending top.parts) with
  | error e => exact .failed e e
  | ok whole =>
    cases outer with
    | nil => exact .kept whole r
    | cons parent outer => exact hnext _ outer

theorem length_lt_of_scanClassAtom {a : Atom} (h : scanClassAtom f s = .ok (a, r)) :
    r.length < s.length := by
  unfold scanClassAtom at h
  split at h
  · exact Nat.lt_succ_of_le (leaves_scanEscape f _ _ _ h).length_le
  · cases h
    exact Nat.lt_succ_self _
  · cases h

theorem follows_classItem (ht : ∀ c ∈ t, c = '$') (hend : Unclosed next)
    (hend' : Unclosed next') (hnext : ∀ top outer w, w.length < s.length →
      Follows t u (next top outer w) (next' top outer (w ++ ')' :: t))) :
    Follows t u (classItem f next top outer s) (classItem f next' top outer (s ++ ')' :: t)) := by
  have hitem := steady_scanClassItem ht f
  refine Follows.bind_class (fun p => { top with parts := top.parts ++ [p] }) _ ht hend hend'
    (hitem.follows s) fun p w hw => hnext _ _ w ?_
  rw [scanClassItem_eq] at hw
  cases hatom : scanClassAtom f s with
  | error e =>
    rw [hatom] at hw
    cases hw
  | ok q =>
    rw [hatom] at hw
    have hafter := (leaves_afterAtom f q.1 (f.skip q.2)) p w hw
    exact Nat.lt_of_le_of_lt (hafter.trans (skip_suffix f q.2)).length_le
      (length_lt_of_scanClassAtom hatom)

theorem follows_classStep (ht : ∀ c ∈ t, c = '$') (hend : Unclosed next)
    (hend' : Unclosed next') (hnext : ∀ top outer w, w.length < s.length →
      Follows t u (next top outer w) (next' top outer (w ++ ')' :: t))) :
    Follows t u (classStep f next top outer s) (classStep f next' top outer (s ++ ')' :: t)) := by
  rcases class_cases f s with rfl | ⟨r, rfl⟩ | ⟨r, rfl⟩ | ⟨c, op, r, rfl, hop⟩ | ⟨hne, h⟩
  · obtain ⟨e', he'⟩ := unclosed_classStep hend' (f := f) top outer (')' :: t) fun c hc =>
      (List.mem_cons.mp hc).imp_right (ht c)
    rw [List.nil_append, he']
    exact .failed _ e'
  · exact follows_classNested ht hend hend' fun _ _ w hw => hnext _ _ w (Nat.lt_succ_of_le hw)
  · exact follows_classEnd fun _ _ => hnext _ _ r (Nat.lt_succ_self _)
  · rw [List.cons_append, List.cons_append, hop, hop]
    exact hnext _ _ r (by simp only [List.length_cons]; omega)
  · rw [classStep_plain h hne, classStep_plain h.append (by simp)]
    exact follows_classItem ht hend hend' hnext

theorem follows_scanClass (ht : ∀ c ∈ t, c = '$') (f : Flags) {n m : Nat} (top : ClassFrame)
    (outer : List ClassFrame) (hn : s.length < n) (hm : (s ++ ')' :: t).length < m) :
    Follows t u (scanClass f n top outer s) (scanClass f m top outer (s ++ ')' :: t)) := by
  induction n generalizing top outer s m with
  | zero => exact absurd hn (Nat.not_lt_zero _)
  | succ n ih =>
    obtain ⟨m, rfl⟩ : ∃ k, m = k + 1 := ⟨m - 1, by omega⟩
    rw [List.length_append, List.length_cons] at hm
    have hlen := (skip_suffix f s).length_le
    rw [scanClass_succ, scanClass_succ]
    rcases skip_append ht f s with h | ⟨h, h'⟩
    · rw [h]
      exact follows_classStep ht (unclosed_scanClass f n) (unclosed_scanClass f m)
        fun top outer w hw => ih top outer (by omega) (by simp; omega)
    · rw [h, h']
      exact .failed _ _

end Continued

def scanWholeClass (f : Flags) (s : List Char) : Except PatternError (ClassPart × List Char) := do
  let (frame, rest) ← openClass f s
  scanClass f (s.length + 1) frame [] rest

theorem steady_scanWholeClass (ht : ∀ c ∈ t, c = '$') (f : Flags) {u : List Char} :
    Steady t u (scanWholeClass f) := by
  have hopen := steady_openClass ht f
  constructor
  · intro s
    exact (hopen.leaves s).bind fun frame rest => leaves_scanClass f _ frame [] rest
  · intro s
    refine Follows.bind_class (fun frame => frame) [] ht (unclosed_scanClass f _)
      (unclosed_scanClass f _) (hopen.follows s) fun frame w hw => ?_
    have hlen := (hopen.leaves s frame w hw).length_le
    exact follows_scanClass ht f frame [] (by omega) (by simp; omega)

end Testbed.Pattern
