import Mathlib.Data.List.TakeWhile
import Testbed.Pattern.Parser

/-!
Reading a pattern with more text behind it: a closing parenthesis, and dollars. Each scanner
makes of the longer text what it makes of the pattern alone, and leaves the rest of it, unless a
comment swallows that or the pattern ends inside of what is scanned.
-/
namespace Testbed.Pattern

/-- The outcome for a text, and for the same text with a closing parenthesis and `t` behind it. A
comment that is open at the end of the text swallows what follows it. Where the text ends too
soon, the scanner fails in the longer text too, or it goes on into what follows, up to a part of
`u`. -/
inductive Follows {α : Type} (t u : List Char) :
    Except PatternError (α × List Char) → Except PatternError (α × List Char) → Prop
  | kept (a : α) (r : List Char) : Follows t u (.ok (a, r)) (.ok (a, r ++ ')' :: t))
  | drained (a : α) : Follows t u (.ok (a, [])) (.ok (a, []))
  | lost (e : PatternError) (a : α) {r : List Char} (h : r <:+ u) :
      Follows t u (.error e) (.ok (a, r))
  | failed (e e' : PatternError) : Follows t u (.error e) (.error e')

def Leaves {α : Type} (x : Except PatternError (α × List Char)) (s : List Char) : Prop :=
  ∀ a r, x = .ok (a, r) → r <:+ s

variable {α β : Type} {t u s r : List Char} {x y : Except PatternError (α × List Char)}
  {f : Flags} {a : α} {e : PatternError}

theorem Leaves.ok (h : r <:+ s) : Leaves (.ok (a, r)) s := by
  rintro _ _ heq
  cases heq
  exact h

theorem Leaves.error : Leaves (.error e : Except PatternError (α × List Char)) s := nofun

theorem Leaves.mono (hx : Leaves x r) (h : r <:+ s) : Leaves x s :=
  fun a r' heq => (hx a r' heq).trans h

theorem Leaves.bind {k : α × List Char → Except PatternError (β × List Char)} (hx : Leaves x s)
    (hk : ∀ a r, Leaves (k (a, r)) r) : Leaves (x >>= k) s := by
  cases x with
  | error e => exact .error
  | ok p => exact (hk p.1 p.2).mono (hx p.1 p.2 rfl)

theorem Follows.of_nil (hx : Leaves x []) : Follows t u x x := by
  cases x with
  | error e => exact .failed e e
  | ok p =>
    obtain ⟨a, r⟩ := p
    obtain rfl := List.suffix_nil.mp (hx a r rfl)
    exact .drained a

theorem Follows.mono {u' : List Char} (h : Follows t u x y) (hu : u <:+ u') :
    Follows t u' x y := by
  cases h with
  | kept a r => exact .kept a r
  | drained a => exact .drained a
  | lost e a hr => exact .lost e a (hr.trans hu)
  | failed e e' => exact .failed e e'

theorem Follows.of_error (hy : Leaves y u) : Follows t u (.error e) y := by
  cases y with
  | error e' => exact .failed e e'
  | ok p => exact .lost e p.1 (hy p.1 p.2 rfl)

theorem Follows.bind {k : α × List Char → Except PatternError (β × List Char)}
    (hx : Follows t u x y) (hk : ∀ a r, Follows t u (k (a, r)) (k (a, r ++ ')' :: t)))
    (hl : ∀ a r, Leaves (k (a, r)) r) : Follows t u (x >>= k) (y >>= k) := by
  cases hx with
  | kept a r => exact hk a r
  | drained a => exact .of_nil (hl a [])
  | lost e a hr => exact .of_error ((hl a _).mono hr)
  | failed e e' => exact .failed e e'

theorem skipRemarks_suffix (inside : Bool) (s : List Char) : skipRemarks inside s <:+ s := by
  induction s generalizing inside with
  | nil => exact List.suffix_refl []
  | cons c r ih =>
    cases inside with
    | true => exact (ih _).trans (List.suffix_cons c r)
    | false =>
      rw [skipRemarks]
      split
      · exact (ih _).trans (List.suffix_cons c r)
      · split
        · exact (ih _).trans (List.suffix_cons c r)
        · exact List.suffix_refl _

theorem skip_suffix (f : Flags) (s : List Char) : f.skip s <:+ s := by
  unfold Flags.skip
  split
  · exact skipRemarks_suffix false s
  · exact List.suffix_refl s

theorem skip_nil (f : Flags) : f.skip [] = [] := List.suffix_nil.mp (skip_suffix f [])

theorem skip_solid (f : Flags) {c : Char} (hblank : Text.isBlank c = false) (hc : c ≠ '#') :
    f.skip (c :: s) = c :: s := by
  unfold Flags.skip
  split
  · rw [skipRemarks, hblank, if_neg (by simp), if_neg hc]
  · rfl

theorem skip_close (f : Flags) : f.skip (')' :: t) = ')' :: t := skip_solid f rfl (by decide)

section Dollars

variable (ht : ∀ c ∈ t, c = '$')
include ht

theorem skipRemarks_dollars : skipRemarks true t = [] := by
  induction t with
  | nil => rfl
  | cons c t ih =>
    obtain ⟨rfl, hrest⟩ := List.forall_mem_cons.mp ht
    exact ih hrest

theorem skipRemarks_append (inside : Bool) (s : List Char) :
    skipRemarks inside (s ++ ')' :: t) = skipRemarks inside s ++ ')' :: t ∨
      (skipRemarks inside s = [] ∧ skipRemarks inside (s ++ ')' :: t) = []) := by
  induction s generalizing inside with
  | nil =>
    cases inside with
    | true =>
      have hswallowed : skipRemarks true (')' :: t) = skipRemarks true t := rfl
      exact .inr ⟨rfl, hswallowed.trans (skipRemarks_dollars ht)⟩
    | false => exact .inl rfl
  | cons c s ih =>
    cases inside with
    | true => exact ih _
    | false =>
      simp only [List.cons_append, skipRemarks]
      split
      · exact ih _
      · split
        · exact ih _
        · exact .inl rfl

theorem skip_append (f : Flags) (s : List Char) :
    f.skip (s ++ ')' :: t) = f.skip s ++ ')' :: t ∨
      (f.skip s = [] ∧ f.skip (s ++ ')' :: t) = []) := by
  unfold Flags.skip
  split
  · exact skipRemarks_append ht false s
  · exact .inl rfl

theorem skip_append_cons {c : Char} {w : List Char}
    (h : f.skip s = c :: w) : f.skip (s ++ ')' :: t) = c :: (w ++ ')' :: t) := by
  rcases skip_append ht f s with hskip | ⟨hskip, -⟩
  · rw [hskip, h]
    rfl
  · rw [hskip] at h
    cases h

end Dollars

/-- A scanner that leaves the end of its text, and bears with what stands behind it. -/
structure Steady {α : Type} (t u : List Char)
    (scan : List Char → Except PatternError (α × List Char)) : Prop where
  leaves : ∀ s, Leaves (scan s) s
  follows : ∀ s, Follows t u (scan s) (scan (s ++ ')' :: t))

theorem Steady.ok (a : α) : Steady t u fun s => .ok (a, s) :=
  ⟨fun s => .ok (List.suffix_refl s), fun s => .kept a s⟩

theorem Steady.error (e : PatternError) :
    Steady t u fun _ => (.error e : Except PatternError (α × List Char)) :=
  ⟨fun _ => .error, fun _ => .failed e e⟩

theorem Steady.bind {scan : List Char → Except PatternError (α × List Char)}
    {k : α × List Char → Except PatternError (β × List Char)} (hx : Steady t u scan)
    (hk : ∀ a, Steady t u fun r => k (a, r)) : Steady t u fun s => scan s >>= k where
  leaves s := (hx.leaves s).bind fun a r => (hk a).leaves r
  follows s := (hx.follows s).bind (fun a r => (hk a).follows r) fun a r => (hk a).leaves r

theorem Steady.first {x : Except PatternError α}
    {k : α → List Char → Except PatternError (β × List Char)} (hk : ∀ a, Steady t u (k a)) :
    Steady t u fun s => x >>= fun a => k a s := by
  cases x with
  | error e => exact .error e
  | ok a => exact hk a

theorem Steady.skip {scan : List Char → Except PatternError (α × List Char)}
    (ht : ∀ c ∈ t, c = '$') (f : Flags) (hs : Steady t u scan) :
    Steady t u fun s => scan (f.skip s) where
  leaves s := (hs.leaves _).mono (skip_suffix f s)
  follows s := by
    rcases skip_append ht f s with h | ⟨h, h'⟩
    · rw [h]
      exact hs.follows _
    · rw [h, h']
      exact .of_nil (hs.leaves [])

theorem isPrefix_append_iff {pre : List Char} (hpre : ')' ∉ pre) :
    pre <+: s ++ ')' :: t ↔ pre <+: s := by
  constructor
  · rintro ⟨r, h⟩
    rcases List.append_eq_append_iff.mp h with ⟨more, rfl, -⟩ | ⟨more, rfl, hmore⟩
    · exact List.prefix_append pre more
    · cases more with
      | nil => exact ⟨[], by simp⟩
      | cons d more =>
        cases (List.cons.inj hmore).1
        exact absurd (List.mem_append_right s (List.mem_cons_self ..)) hpre
  · exact fun h => h.trans (List.prefix_append s _)

theorem Steady.cases {scan other : List Char → Except PatternError (α × List Char)}
    (takes : List (List Char × (List Char → Except PatternError (α × List Char))))
    (hpre : ∀ p ∈ takes, ')' ∉ p.1) (htake : ∀ p ∈ takes, ∀ r, scan (p.1 ++ r) = p.2 r)
    (hother : ∀ s, (∀ p ∈ takes, ¬p.1 <+: s) → scan s = other s)
    (ht : ∀ p ∈ takes, Steady t u p.2) (ho : Steady t u other) : Steady t u scan := by
  have hcases : ∀ s, (∃ p ∈ takes, ∃ r, s = p.1 ++ r) ∨ ∀ p ∈ takes, ¬p.1 <+: s := fun s => by
    by_cases h : ∃ p ∈ takes, ∃ r, s = p.1 ++ r
    · exact .inl h
    · exact .inr fun p hp ⟨r, hr⟩ => h ⟨p, hp, r, hr.symm⟩
  constructor
  · intro s
    rcases hcases s with ⟨p, hp, r, rfl⟩ | h
    · rw [htake p hp]
      exact ((ht p hp).leaves r).mono (List.suffix_append p.1 r)
    · rw [hother s h]
      exact ho.leaves s
  · intro s
    rcases hcases s with ⟨p, hp, r, rfl⟩ | h
    · rw [List.append_assoc, htake p hp, htake p hp]
      exact (ht p hp).follows r
    · rw [hother s h, hother _ fun p hp => mt (isPrefix_append_iff (hpre p hp)).mp (h p hp)]
      exact ho.follows s

theorem Steady.head {scan take other : List Char → Except PatternError (α × List Char)} (d : Char)
    (hd : d ≠ ')') (htake : ∀ r, scan (d :: r) = take r)
    (hother : ∀ s, (∀ r, s ≠ d :: r) → scan s = other s) (ht : Steady t u take)
    (ho : Steady t u other) : Steady t u scan := by
  refine .cases [([d], take)] (by simpa using hd.symm) ?_ ?_ ?_ ho
  · simp only [List.forall_mem_singleton]
    exact htake
  · exact fun s hs => hother s fun r hr => hs ([d], take) (List.mem_singleton_self _) ⟨r, hr.symm⟩
  · simp only [List.forall_mem_singleton]
    exact ht

theorem Steady.uncons {scan : List Char → Except PatternError (α × List Char)}
    {k : Char → List Char → Except PatternError (α × List Char)} (htu : t <:+ u)
    (hnil : scan [] = .error e) (hcons : ∀ c r, scan (c :: r) = k c r)
    (hk : ∀ c, Steady t u (k c)) : Steady t u scan := by
  constructor
  · intro s
    cases s with
    | nil =>
      rw [hnil]
      exact .error
    | cons c s =>
      rw [hcons]
      exact ((hk c).leaves s).mono (List.suffix_cons c s)
  · intro s
    cases s with
    | nil =>
      rw [hnil, List.nil_append, hcons]
      exact .of_error (((hk ')').leaves t).mono htu)
    | cons c s =>
      rw [List.cons_append, hcons, hcons]
      exact (hk c).follows s

theorem scanSwitches_cases (seen : List Switch) (s : List Char) :
    (∃ sw c r, (c = ':' ∨ c = ')') ∧ c :: r <:+ s ∧ scanSwitches seen s = .ok (sw, c :: r) ∧
      scanSwitches seen (s ++ ')' :: t) = .ok (sw, c :: (r ++ ')' :: t))) ∨
    ∃ e, scanSwitches seen s = .error e ∧ ((∃ e', scanSwitches seen (s ++ ')' :: t) = .error e') ∨
      ∃ sw, scanSwitches seen (s ++ ')' :: t) = .ok (sw, ')' :: t)) := by
  induction s generalizing seen with
  | nil =>
    -- The parenthesis ends the switches that the text leaves unfinished.
    refine .inr ⟨.flags, rfl, ?_⟩
    simp only [List.nil_append, scanSwitches, or_true, if_true]
    split
    · exact .inl ⟨_, rfl⟩
    · exact .inr ⟨_, rfl⟩
  | cons d s ih =>
    simp only [List.cons_append, scanSwitches]
    generalize (if d = '-' then Switch.negation else Switch.flag d) = switch
    split
    · next hd =>
      split
      · exact .inr ⟨_, rfl, .inl ⟨_, rfl⟩⟩
      · exact .inl ⟨seen, d, s, hd, List.suffix_refl _, rfl, rfl⟩
    · split
      · exact .inr ⟨_, rfl, .inl ⟨_, rfl⟩⟩
      · rcases ih (seen ++ [switch]) with ⟨sw, c, r, hc, hr, h⟩ | h
        · exact .inl ⟨sw, c, r, hc, hr.trans (List.suffix_cons d s), h⟩
        · exact .inr h

def scanSwitched (f : Flags) (s : List Char) : Except PatternError (Opening × List Char) := do
  let (switches, rest) ← scanSwitches [] s
  match rest with
  | ')' :: rest => if switches = [] then .error .flags else .ok (.switch (f.apply switches), rest)
  | rest => .ok (.group (f.apply switches) none, rest.drop 1)

theorem steady_scanSwitched (f : Flags) : Steady t t (scanSwitched f) := by
  constructor
  · intro s
    rcases scanSwitches_cases (t := t) [] s with ⟨sw, c, r, hc, hr, h, -⟩ | ⟨e, h, -⟩
    · rw [scanSwitched, h]
      rcases hc with rfl | rfl
      · exact .ok ((List.suffix_cons _ r).trans hr)
      · simp only [bind, Except.bind]
        split
        · exact .error
        · exact .ok ((List.suffix_cons _ r).trans hr)
    · rw [scanSwitched, h]
      exact .error
  · intro s
    rcases scanSwitches_cases (t := t) [] s with ⟨sw, c, r, hc, hr, h, h'⟩ | ⟨e, h, h'⟩
    · rw [scanSwitched, scanSwitched, h, h']
      rcases hc with rfl | rfl
      · exact .kept _ r
      · simp only [bind, Except.bind]
        split
        · exact .failed _ _
        · exact .kept _ r
    · rw [scanSwitched, scanSwitched, h]
      rcases h' with ⟨e', h'⟩ | ⟨sw, h'⟩
      · rw [h']
        exact .failed _ _
      · rw [h']
        simp only [bind, Except.bind]
        split
        · exact .failed _ _
        · exact .lost _ _ (List.suffix_refl t)

theorem dropWhile_cases (ht : ∀ c ∈ t, c = '$') {p : Char → Bool} (hp : p ')' = true)
    (hd : p '$' = true) (s : List Char) :
    (s.dropWhile p = [] ∧ (s ++ ')' :: t).dropWhile p = []) ∨
      ∃ c r, p c = false ∧ s.dropWhile p = c :: r ∧
        (s ++ ')' :: t).dropWhile p = c :: (r ++ ')' :: t) ∧
        (s ++ ')' :: t).takeWhile p = s.takeWhile p := by
  rw [List.dropWhile_append, List.takeWhile_append]
  cases h : s.dropWhile p with
  | nil =>
    refine .inl ⟨rfl, ?_⟩
    rw [List.isEmpty_nil, if_pos rfl, List.dropWhile_eq_nil_iff]
    intro c hc
    rcases List.mem_cons.mp hc with rfl | hc
    · exact hp
    · rw [ht c hc]
      exact hd
  | cons c r =>
    have hc : p c = false := by
      have hhead := List.head?_dropWhile_not p s
      simpa [h] using hhead
    refine .inr ⟨c, r, hc, rfl, rfl, ?_⟩
    have hlen := congrArg List.length (List.takeWhile_append_dropWhile (p := p) (l := s))
    rw [h, List.length_append, List.length_cons] at hlen
    rw [if_neg (by omega)]

theorem steady_scanGroupName (ht : ∀ c ∈ t, c = '$') (dialect : Dialect) :
    Steady t u (scanGroupName dialect) := by
  constructor
  · intro s
    unfold scanGroupName
    dsimp only
    split
    · next rest _ _ hdrop _ =>
      have hrest : '>' :: rest <:+ s := hdrop ▸ List.dropWhile_suffix _
      split
      · exact .ok ((List.suffix_cons _ _).trans hrest)
      · exact .error
    · exact .error
  · intro s
    have hcases := dropWhile_cases ht (p := (· ≠ '>')) (by decide) (by decide) s
    unfold scanGroupName
    dsimp only
    rcases hcases with ⟨h, h'⟩ | ⟨c, r, hc, h, h', htake⟩
    · rw [h, h']
      exact .failed _ _
    · obtain rfl : c = '>' := by simpa using hc
      rw [h, h', htake]
      cases s.takeWhile (· ≠ '>') with
      | nil => exact .failed _ _
      | cons d name =>
        show Follows t u
          (if (isNameStart dialect d && name.all (isNameContinue dialect)) = true then
            .ok (String.ofList (d :: name), r) else .error .groupName)
          (if (isNameStart dialect d && name.all (isNameContinue dialect)) = true then
            .ok (String.ofList (d :: name), r ++ ')' :: t) else .error .groupName)
        split
        · exact .kept _ r
        · exact .failed _ _

def scanNamed (f : Flags) (s : List Char) : Except PatternError (Opening × List Char) := do
  let (name, rest) ← scanGroupName f.dialect s
  .ok (.group f (some name), rest)

theorem steady_scanNamed (ht : ∀ c ∈ t, c = '$') (f : Flags) : Steady t u (scanNamed f) :=
  (steady_scanGroupName ht f.dialect).bind fun _ => .ok _

def scanAngled (f : Flags) : List Char → Except PatternError (Opening × List Char)
  | '=' :: _ | '!' :: _ => .error .lookAround
  | s => scanNamed f s

def scanQuery (f : Flags) : List Char → Except PatternError (Opening × List Char)
  | '=' :: _ | '!' :: _ => .error .lookAround
  | '<' :: r => scanAngled f r
  | 'P' :: '<' :: r => scanNamed f r
  | s => scanSwitched f s

def scanOpened (f : Flags) : List Char → Except PatternError (Opening × List Char)
  | '?' :: r => scanQuery f r
  | s => .ok (.group f none, s)

theorem scanOpening_eq (f : Flags) (s : List Char) :
    scanOpening f s = scanOpened f (f.skip s) := by
  unfold scanOpening
  generalize f.skip s = w
  split
  case h_6 r h₁ h₂ =>
    show scanNamed f r = scanAngled f r
    unfold scanAngled
    split <;> simp_all
  case h_7 r _ _ _ _ _ _ =>
    show scanSwitched f r = scanQuery f r
    unfold scanQuery
    split <;> simp_all
  case h_8 =>
    unfold scanOpened
    split <;> simp_all
  all_goals rfl

theorem steady_scanAngled (ht : ∀ c ∈ t, c = '$') (f : Flags) : Steady t u (scanAngled f) := by
  refine .cases [(['='], fun _ => .error .lookAround), (['!'], fun _ => .error .lookAround)]
    (by simp) ?_ ?_ ?_ (steady_scanNamed ht f)
  · simp only [List.forall_mem_cons]
    exact ⟨fun _ => rfl, fun _ => rfl, nofun⟩
  · intro s hs
    unfold scanAngled
    split <;> simp_all
  · simp only [List.forall_mem_cons]
    exact ⟨.error _, .error _, nofun⟩

theorem steady_scanQuery (ht : ∀ c ∈ t, c = '$') (f : Flags) : Steady t t (scanQuery f) := by
  refine .cases [(['='], fun _ => .error .lookAround), (['!'], fun _ => .error .lookAround),
    (['<'], scanAngled f), (['P', '<'], scanNamed f)] (by simp) ?_ ?_ ?_ (steady_scanSwitched f)
  · simp only [List.forall_mem_cons]
    exact ⟨fun _ => rfl, fun _ => rfl, fun _ => rfl, fun _ => rfl, nofun⟩
  · intro s hs
    unfold scanQuery
    split <;> simp_all
  · simp only [List.forall_mem_cons]
    exact ⟨.error _, .error _, steady_scanAngled ht f, steady_scanNamed ht f, nofun⟩

theorem steady_scanOpened (ht : ∀ c ∈ t, c = '$') (f : Flags) : Steady t t (scanOpened f) := by
  refine .head '?' (by decide) (fun _ => rfl) (fun s hs => ?_) (steady_scanQuery ht f)
    (.ok (.group f none))
  unfold scanOpened
  split <;> simp_all

theorem steady_scanOpening (ht : ∀ c ∈ t, c = '$') (f : Flags) : Steady t t (scanOpening f) := by
  rw [funext (scanOpening_eq f)]
  exact (steady_scanOpened ht f).skip ht f

end Testbed.Pattern
