import Testbed.Proofs.Scanning

/-!
Reading an escape with more text behind it. An escape that the pattern breaks off may go on into
what follows; a boundary may leave a brace that is no part of its name.
-/
namespace Testbed.Pattern

variable {t u s r : List Char} {f : Flags}

theorem steady_scanFixedHex (ht : ∀ c ∈ t, c = '$') (htu : t <:+ u) (f : Flags) (n : Nat)
    (acc : List Char) : Steady t u (scanFixedHex f n acc) := by
  induction n generalizing acc with
  | zero =>
    have hzero : scanFixedHex f 0 acc = fun s => .ok (acc, s) := by
      funext s
      cases s <;> rfl
    rw [hzero]
    exact .ok acc
  | succ n ih =>
    refine .uncons (k := fun c r => if isHex c then scanFixedHex f n (acc ++ [c]) (f.skip r)
      else .error .codePoint) htu rfl (fun _ _ => rfl) fun c => ?_
    split
    · exact (ih _).skip ht f
    · exact .error _

section Fuel

variable {n m : Nat}

theorem leaves_scanBracedHex (f : Flags) (n : Nat) (acc s : List Char) :
    Leaves (scanBracedHex f n acc s) s := by
  induction n generalizing acc s with
  | zero => exact .error
  | succ n ih =>
    have hs := skip_suffix f s
    rw [scanBracedHex]
    split
    · next r heq =>
      rw [heq] at hs
      exact .ok ((skip_suffix f r).trans ((List.suffix_cons _ r).trans hs))
    · next c r _ heq =>
      rw [heq] at hs
      split
      · exact (ih _ r).mono ((List.suffix_cons c r).trans hs)
      · exact .error
    · exact .error

theorem follows_scanBracedHex (ht : ∀ c ∈ t, c = '$') (f : Flags) (acc : List Char)
    (hn : s.length < n) (hm : (s ++ ')' :: t).length < m) :
    Follows t u (scanBracedHex f n acc s) (scanBracedHex f m acc (s ++ ')' :: t)) := by
  induction n generalizing acc s m with
  | zero => exact absurd hn (Nat.not_lt_zero _)
  | succ n ih =>
    obtain ⟨m, rfl⟩ : ∃ k, m = k + 1 := ⟨m - 1, by omega⟩
    have hlen := (skip_suffix f s).length_le
    rw [List.length_append, List.length_cons] at hm
    rw [scanBracedHex, scanBracedHex]
    rcases skip_append ht f s with h | ⟨h, h'⟩
    · rw [h]
      rcases hw : f.skip s with _ | ⟨c, r⟩
      · exact .failed _ _
      · rw [hw, List.length_cons] at hlen
        by_cases hc : c = '\x7d'
        · subst hc
          simp only [List.cons_append]
          exact ((Steady.ok acc).skip ht f).follows r
        · simp only [List.cons_append]
          split
          · exact ih (acc ++ [c]) (by omega) (by simp; omega)
          · exact .failed _ _
    · rw [h, h']
      exact .failed _ _

theorem leaves_scanBraced (f : Flags) (n : Nat) (acc s : List Char) :
    Leaves (scanBraced f n acc s) s := by
  induction n generalizing acc s with
  | zero => exact .error
  | succ n ih =>
    have hs := skip_suffix f s
    rw [scanBraced]
    split
    · next r heq =>
      rw [heq] at hs
      exact .ok ((List.suffix_cons _ r).trans hs)
    · next c r _ heq =>
      rw [heq] at hs
      exact (ih _ r).mono ((List.suffix_cons c r).trans hs)
    · exact .error

theorem follows_scanBraced (ht : ∀ c ∈ t, c = '$') (htu : t <:+ u) (f : Flags) (acc : List Char)
    (hn : s.length < n) (hm : (s ++ ')' :: t).length < m) :
    Follows t u (scanBraced f n acc s) (scanBraced f m acc (s ++ ')' :: t)) := by
  induction n generalizing acc s m with
  | zero => exact absurd hn (Nat.not_lt_zero _)
  | succ n ih =>
    obtain ⟨m, rfl⟩ : ∃ k, m = k + 1 := ⟨m - 1, by omega⟩
    have hlen := (skip_suffix f s).length_le
    rw [List.length_append, List.length_cons] at hm
    rw [scanBraced, scanBraced]
    rcases skip_append ht f s with h | ⟨h, h'⟩
    · rw [h]
      rcases hw : f.skip s with _ | ⟨c, r⟩
      · exact .of_error ((leaves_scanBraced f m (acc ++ [')']) t).mono htu)
      · rw [hw, List.length_cons] at hlen
        by_cases hc : c = '\x7d'
        · subst hc
          simp only [List.cons_append]
          exact .kept _ r
        · simp only [List.cons_append]
          exact ih (acc ++ [c]) (by omega) (by simp; omega)
    · rw [h, h']
      exact .failed _ _

end Fuel

def scanBracedCode (f : Flags) (s : List Char) : Except PatternError (Atom × List Char) := do
  let (ds, rest) ← scanBracedHex f (s.length + 1) [] s
  if ds = [] ∨ 0x1_0000_0000 ≤ ofHex ds then .error .codePoint
  else .ok (.char (← charOf (ofHex ds)) false, rest)

def scanFixedCode (f : Flags) (kind : Char) (s : List Char) :
    Except PatternError (Atom × List Char) := do
  let width := if kind = 'x' then 2 else if kind = 'u' then 4 else 8
  let (ds, rest) ← scanFixedHex f width [] s
  .ok (.char (← charOf (ofHex ds)) (kind == 'x'), rest)

def scanCode (f : Flags) (kind : Char) : List Char → Except PatternError (Atom × List Char)
  | '\x7b' :: r => scanBracedCode f r
  | s => scanFixedCode f kind s

theorem scanHex_eq (f : Flags) (kind : Char) (s : List Char) :
    scanHex f kind s = scanCode f kind (f.skip s) := by
  rfl

theorem steady_scanCode (ht : ∀ c ∈ t, c = '$') (htu : t <:+ u) (f : Flags) (kind : Char) :
    Steady t u (scanCode f kind) := by
  have hbraced : Steady t u (scanBracedCode f) := by
    have hscan : Steady t u fun s => scanBracedHex f (s.length + 1) [] s :=
      ⟨fun s => leaves_scanBracedHex f _ [] s,
        fun s => follows_scanBracedHex ht f [] (Nat.lt_succ_self _) (Nat.lt_succ_self _)⟩
    refine hscan.bind fun ds => ?_
    dsimp only
    split
    · exact .error _
    · exact .first fun c => .ok _
  have hfixed : Steady t u (scanFixedCode f kind) :=
    (steady_scanFixedHex ht htu f _ []).bind fun ds => .first fun c => .ok _
  refine .head '\x7b' (by decide) (fun _ => rfl) (fun s hs => ?_) hbraced hfixed
  unfold scanCode
  split <;> simp_all

theorem steady_scanHex (ht : ∀ c ∈ t, c = '$') (htu : t <:+ u) (f : Flags) (kind : Char) :
    Steady t u (scanHex f kind) := by
  rw [funext (scanHex_eq f kind)]
  exact (steady_scanCode ht htu f kind).skip ht f

def scanPropertyChar (f : Flags) : List Char → Except PatternError (List Char × List Char)
  | c :: r => .ok ([c], f.skip r)
  | [] => .error .escape

def scanPropertyName (f : Flags) : List Char → Except PatternError (List Char × List Char)
  | '\x7b' :: r => scanBraced f (r.length + 1) [] r
  | '\\' :: _ => .error .property
  | s => scanPropertyChar f s

theorem scanPropertyName_other (f : Flags) (hbrace : ∀ r, s ≠ '\x7b' :: r)
    (hslash : ∀ r, s ≠ '\\' :: r) : scanPropertyName f s = scanPropertyChar f s := by
  unfold scanPropertyName
  split
  · next r => exact absurd rfl (hbrace r)
  · next r => exact absurd rfl (hslash r)
  · rfl

theorem scanProperty_eq (f : Flags) (negated : Bool) (s : List Char) :
    scanProperty f negated s = do
      let (name, rest) ← scanPropertyName f (f.skip s)
      if !f.wide then .error .property
      let set := f.widen (← propertySet f.dialect name)
      return (.set (if negated then .compl set else set), rest) := by
  unfold scanProperty
  generalize f.skip s = w
  rcases w with _ | ⟨c, w⟩
  · rfl
  · by_cases hbrace : c = '\x7b'
    · subst hbrace
      rfl
    · by_cases hslash : c = '\\'
      · subst hslash
        rfl
      · rw [scanPropertyName_other f (by simp [hbrace]) (by simp [hslash]), scanPropertyChar]
        simp only

theorem steady_scanPropertyName (ht : ∀ c ∈ t, c = '$') (htu : t <:+ u) (f : Flags) :
    Steady t u (scanPropertyName f) := by
  have hbraced : Steady t u fun s => scanBraced f (s.length + 1) [] s :=
    ⟨fun s => leaves_scanBraced f _ [] s,
      fun s => follows_scanBraced ht htu f [] (Nat.lt_succ_self _) (Nat.lt_succ_self _)⟩
  have hchar : Steady t u (scanPropertyChar f) :=
    .uncons htu rfl (fun _ _ => rfl) fun c => (Steady.ok [c]).skip ht f
  refine .cases [(['\x7b'], fun r => scanBraced f (r.length + 1) [] r),
    (['\\'], fun _ => .error .property)] (by simp) ?_ ?_ ?_ hchar
  · simp only [List.forall_mem_cons]
    exact ⟨fun _ => rfl, fun _ => rfl, nofun⟩
  · exact fun s hs => scanPropertyName_other f (fun r hr => by simp_all) fun r hr => by simp_all
  · simp only [List.forall_mem_cons]
    exact ⟨hbraced, .error _, nofun⟩

theorem steady_scanProperty (ht : ∀ c ∈ t, c = '$') (htu : t <:+ u) (f : Flags) (negated : Bool) :
    Steady t u (scanProperty f negated) := by
  rw [funext (scanProperty_eq f negated)]
  refine ((steady_scanPropertyName ht htu f).skip ht f).bind fun name => ?_
  dsimp only
  split
  · exact .error _
  · exact .first fun set => .ok _

theorem scanBoundaryName_nil (f : Flags) (n : Nat) (acc : List Char) :
    scanBoundaryName f n acc [] = (acc, []) := by
  cases n <;> rfl

theorem leaves_scanBoundaryName (f : Flags) (n : Nat) (acc s : List Char) :
    (scanBoundaryName f n acc s).2 <:+ s := by
  induction n generalizing acc s with
  | zero => exact List.suffix_refl s
  | succ n ih =>
    cases s with
    | nil => exact List.suffix_refl []
    | cons c r =>
      rw [scanBoundaryName]
      split
      · exact (ih _ _).trans ((skip_suffix f r).trans (List.suffix_cons c r))
      · exact List.suffix_refl _

theorem follows_scanBoundaryName (ht : ∀ c ∈ t, c = '$') (f : Flags) {n m : Nat} (acc : List Char)
    (hn : s.length < n) (hm : (s ++ ')' :: t).length < m) :
    Follows t u (.ok (scanBoundaryName f n acc s))
      (.ok (scanBoundaryName f m acc (s ++ ')' :: t))) := by
  induction n generalizing acc s m with
  | zero => exact absurd hn (Nat.not_lt_zero _)
  | succ n ih =>
    obtain ⟨m, rfl⟩ : ∃ k, m = k + 1 := ⟨m - 1, by omega⟩
    rw [List.length_append, List.length_cons] at hm
    cases s with
    | nil => exact .kept acc []
    | cons c r =>
      have hlen := (skip_suffix f r).length_le
      rw [List.length_cons] at hn hm
      simp only [List.cons_append, scanBoundaryName]
      split
      · rcases skip_append ht f r with h | ⟨h, h'⟩
        · rw [h]
          exact ih _ (by omega) (by simp; omega)
        · rw [h, h', scanBoundaryName_nil, scanBoundaryName_nil]
          exact .drained _
      · exact .kept acc (c :: r)

def scanSide (f : Flags) : List Char × List Char → Except PatternError (Atom × List Char)
  | (name, '\x7d' :: rest) =>
    match String.ofList name with
    | "start" => .ok (.look (.wordStart f.wordChar), rest)
    | "end" => .ok (.look (.wordStop f.wordChar), rest)
    | "start-half" => .ok (.look (.noWordBefore f.wordChar), rest)
    | "end-half" => .ok (.look (.noWordAfter f.wordChar), rest)
    | _ => .error .wordBoundary
  | _ => .error .wordBoundary

theorem steady_scanSide (f : Flags) (name : List Char) :
    Steady t u fun rest => scanSide f (name, rest) := by
  have hside : Steady t u fun rest => scanSide f (name, '\x7d' :: rest) := by
    simp only [scanSide]
    split
    · exact .ok _
    · exact .ok _
    · exact .ok _
    · exact .ok _
    · exact .error _
  refine .head '\x7d' (by decide) (fun _ => rfl) (fun s hs => ?_) hside (.error .wordBoundary)
  unfold scanSide
  split <;> simp_all

theorem scanBoundary_brace (f : Flags) (r : List Char) :
    scanBoundary f ('\x7b' :: r) = match f.skip r with
      | [] => .error .wordBoundary
      | c :: r' =>
        if c.isAlpha || c == '-' then scanSide f (scanBoundaryName f (r.length + 1) [] (c :: r'))
        else .ok (.look (.boundary f.wordChar), '\x7b' :: r) := by
  rfl

theorem scanBoundary_other (f : Flags) (hs : ∀ r, s ≠ '\x7b' :: r) :
    scanBoundary f s = .ok (.look (.boundary f.wordChar), s) := by
  unfold scanBoundary
  split
  · next r => exact absurd rfl (hs r)
  · rfl

theorem leaves_scanBoundary (f : Flags) (s : List Char) : Leaves (scanBoundary f s) s := by
  by_cases hs : ∃ r, s = '\x7b' :: r
  · obtain ⟨r, rfl⟩ := hs
    rw [scanBoundary_brace]
    split
    · exact .error
    · next c r' heq =>
      have hr : c :: r' <:+ '\x7b' :: r :=
        heq ▸ (skip_suffix f r).trans (List.suffix_cons _ r)
      split
      · have hname := leaves_scanBoundaryName f (r.length + 1) [] (c :: r')
        exact ((steady_scanSide (t := []) (u := []) f _).leaves _).mono (hname.trans hr)
      · exact .ok (List.suffix_refl _)
  · rw [scanBoundary_other f fun r hr => hs ⟨r, hr⟩]
    exact .ok (List.suffix_refl s)

def Braced (f : Flags) (t : List Char) (x y : Except PatternError (Atom × List Char)) : Prop :=
  ∃ e l w, x = .error e ∧ y = .ok (.look l, '\x7b' :: w) ∧ f.skip w = ')' :: t

theorem scanBoundary_cases (ht : ∀ c ∈ t, c = '$') (f : Flags) (s : List Char) :
    Follows t t (scanBoundary f s) (scanBoundary f (s ++ ')' :: t)) ∨
      Braced f t (scanBoundary f s) (scanBoundary f (s ++ ')' :: t)) := by
  by_cases hs : ∃ r, s = '\x7b' :: r
  · obtain ⟨r, rfl⟩ := hs
    rw [List.cons_append, scanBoundary_brace, scanBoundary_brace]
    rcases skip_append ht f r with h | ⟨h, h'⟩
    · rw [h]
      rcases hw : f.skip r with _ | ⟨c, r'⟩
      · -- The name is missing, but before the parenthesis the brace begins a repetition.
        exact .inr ⟨.wordBoundary, .boundary f.wordChar, r ++ ')' :: t, rfl, rfl, by rw [h, hw]; rfl⟩
      · simp only [List.cons_append]
        split
        · have hlen := (skip_suffix f r).length_le
          rw [hw] at hlen
          have hname := follows_scanBoundaryName (u := t) ht f [] (s := c :: r')
            (n := r.length + 1) (m := (r ++ ')' :: t).length + 1) (Nat.lt_succ_of_le hlen)
            (by simp at hlen ⊢; omega)
          have hside : ∀ name, Steady t t fun s => scanSide f (name, s) := steady_scanSide f
          exact .inl (hname.bind (k := scanSide f) (fun name s => (hside name).follows s)
            fun name s => (hside name).leaves s)
        · exact .inl (.kept _ ('\x7b' :: r))
    · rw [h, h']
      exact .inl (.failed _ _)
  · have hs' : ∀ r, s ++ ')' :: t ≠ '\x7b' :: r := by
      cases s with
      | nil => exact fun r hr => by cases hr
      | cons c s => exact fun r hr => hs ⟨s, by rw [(List.cons.inj hr).1]⟩
    rw [scanBoundary_other f fun r hr => hs ⟨r, hr⟩, scanBoundary_other f hs']
    exact .inl (.kept _ s)

theorem steady_scanEscape_of_ne (ht : ∀ c ∈ t, c = '$') (htu : t <:+ u) (f : Flags) {c : Char}
    (hc : c ≠ 'b') : Steady t u fun r => scanEscape f (c :: r) := by
  simp only [scanEscape]
  split
  · exact .error _
  split
  · exact steady_scanHex ht htu f c
  split
  · exact steady_scanProperty ht htu f _
  split
  · exact .first fun set => .ok _
  split
  · exact .ok _
  split
  case h_9 => exact absurd rfl hc
  all_goals first | exact .ok _ | exact .error _

theorem leaves_scanEscape (f : Flags) (s : List Char) : Leaves (scanEscape f s) s := by
  cases s with
  | nil => exact .error
  | cons c r =>
    refine Leaves.mono ?_ (List.suffix_cons c r)
    by_cases hc : c = 'b'
    · subst hc
      exact leaves_scanBoundary f r
    · exact (steady_scanEscape_of_ne (t := []) nofun (List.suffix_refl []) f hc).leaves r

theorem scanEscape_cases (ht : ∀ c ∈ t, c = '$') (f : Flags) (s : List Char) :
    Follows t t (scanEscape f s) (scanEscape f (s ++ ')' :: t)) ∨
      Braced f t (scanEscape f s) (scanEscape f (s ++ ')' :: t)) := by
  cases s with
  | nil =>
    have hclose : ')' ≠ 'b' := by decide
    exact .inl (.of_error
      ((steady_scanEscape_of_ne ht (List.suffix_refl t) f hclose).leaves t))
  | cons c r =>
    by_cases hc : c = 'b'
    · subst hc
      exact scanBoundary_cases ht f r
    · exact .inl ((steady_scanEscape_of_ne ht (List.suffix_refl t) f hc).follows r)

end Testbed.Pattern
