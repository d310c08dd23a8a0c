import Testbed.Proofs.Classes

/-!
Reading a pattern with more text behind it, inside of groups that were open before: the items are
those of the pattern alone, up to a parenthesis that closes what the pattern did not open.
-/
namespace Testbed.Pattern

variable {t u s r : List Char} {f : Flags}

theorem scanDigits_nil (f : Flags) (n : Nat) : scanDigits f n [] = ([], []) := by
  cases n <;> rfl

theorem scanDigits_suffix (f : Flags) (n : Nat) (s : List Char) : (scanDigits f n s).2 <:+ s := by
  induction n generalizing s with
  | zero => exact List.suffix_refl s
  | succ n ih =>
    cases s with
    | nil => exact List.suffix_refl []
    | cons c s =>
      rw [scanDigits]
      split
      · exact (ih _).trans ((skip_suffix f s).trans (List.suffix_cons c s))
      · exact List.suffix_refl _

theorem follows_scanDigits (ht : ∀ c ∈ t, c = '$') (f : Flags) {n m : Nat} (hn : s.length ≤ n)
    (hm : (s ++ ')' :: t).length ≤ m) :
    Follows t u (.ok (scanDigits f n s)) (.ok (scanDigits f m (s ++ ')' :: t))) := by
  induction n generalizing s m with
  | zero =>
    obtain rfl := List.eq_nil_of_length_eq_zero (Nat.le_zero.mp hn)
    obtain ⟨m, rfl⟩ : ∃ k, m = k + 1 := ⟨m - 1, by simp at hm; omega⟩
    exact .kept [] []
  | succ n ih =>
    rw [List.length_append, List.length_cons] at hm
    obtain ⟨m, rfl⟩ : ∃ k, m = k + 1 := ⟨m - 1, by omega⟩
    cases s with
    | nil => exact .kept [] []
    | cons c s =>
      have hlen := (skip_suffix f s).length_le
      rw [List.length_cons] at hn hm
      rw [List.cons_append, scanDigits, scanDigits]
      split
      · have hdigits : Follows t u (.ok (scanDigits f n (f.skip s)))
            (.ok (scanDigits f m (f.skip (s ++ ')' :: t)))) := by
          rcases skip_append ht f s with h | ⟨h, h'⟩
          · rw [h]
            exact ih (by omega) (by simp; omega)
          · rw [h, h', scanDigits_nil, scanDigits_nil]
            exact .drained []
        exact hdigits.bind (k := fun p => .ok (c :: p.1, p.2)) (fun ds r => .kept _ r)
          fun ds r => .ok (List.suffix_refl r)
      · exact .kept [] (c :: s)

theorem dropBlanks_append (s : List Char) :
    (s ++ ')' :: t).dropWhile Text.isBlank = s.dropWhile Text.isBlank ++ ')' :: t := by
  rw [List.dropWhile_append]
  split
  · next h =>
    rw [List.isEmpty_iff.mp h]
    rfl
  · rfl

theorem steady_dropBlanks {α : Type} {scan : List Char → Except PatternError (α × List Char)}
    (hs : Steady t u scan) : Steady t u fun s => scan (s.dropWhile Text.isBlank) where
  leaves s := (hs.leaves _).mono (List.dropWhile_suffix _)
  follows s := by
    rw [dropBlanks_append]
    exact hs.follows _

def countOf (ds s : List Char) : Except PatternError (Option Nat × List Char) :=
  if ds = [] then .ok (none, s)
  else if 0x1_0000_0000 ≤ Decimal.ofDigits ds then .error .repetition
  else .ok (some (Decimal.ofDigits ds), s)

theorem scanCount_eq (f : Flags) (s : List Char) : scanCount f s =
    (.ok (scanDigits f (s.dropWhile Text.isBlank).length (s.dropWhile Text.isBlank)) >>= fun p =>
      countOf p.1 (p.2.dropWhile Text.isBlank)) := by
  rfl

theorem steady_scanCount (ht : ∀ c ∈ t, c = '$') (f : Flags) : Steady t u (scanCount f) := by
  have hcount : ∀ ds, Steady t u (countOf ds) := by
    intro ds
    unfold countOf
    split
    · exact .ok _
    split
    · exact .error _
    · exact .ok _
  have hdigits : Steady t u fun s => .ok (scanDigits f s.length s) :=
    ⟨fun s => .ok (scanDigits_suffix f _ s),
      fun s => follows_scanDigits ht f (Nat.le_refl _) (Nat.le_refl _)⟩
  rw [funext (scanCount_eq f)]
  exact steady_dropBlanks (hdigits.bind fun ds => steady_dropBlanks (hcount ds))

def required (n : Option Nat) : Except PatternError Nat :=
  match n with
  | some n => .ok n
  | none => .error .repetition

def upTo (least most : Nat) : List Char → Except PatternError ((Nat × Option Nat) × List Char)
  | '\x7d' :: rest => if least ≤ most then .ok ((least, some most), rest) else .error .repetition
  | _ => .error .repetition

def scanLimit (f : Flags) (least : Nat) (s : List Char) :
    Except PatternError ((Nat × Option Nat) × List Char) := do
  let (most, rest) ← scanCount f s
  let most ← required most
  upTo least most rest

def scanMost (f : Flags) (least : Nat) : List Char →
    Except PatternError ((Nat × Option Nat) × List Char)
  | '\x7d' :: rest => .ok ((least, none), rest)
  | s => scanLimit f least s

def afterLeast (f : Flags) (least : Nat) : List Char →
    Except PatternError ((Nat × Option Nat) × List Char)
  | ',' :: r => scanMost f least (f.skip r)
  | '\x7d' :: rest => .ok ((least, some least), rest)
  | _ => .error .repetition

theorem scanMost_other (f : Flags) (least : Nat) (hs : ∀ r, s ≠ '\x7d' :: r) :
    scanMost f least s = scanLimit f least s := by
  unfold scanMost
  split
  · next r => exact absurd rfl (hs r)
  · rfl

theorem afterLeast_other (f : Flags) (least : Nat) (hcomma : ∀ r, s ≠ ',' :: r)
    (hbrace : ∀ r, s ≠ '\x7d' :: r) : afterLeast f least s = .error .repetition := by
  unfold afterLeast
  split
  · next r => exact absurd rfl (hcomma r)
  · next r => exact absurd rfl (hbrace r)
  · rfl

theorem scanBounds_eq (f : Flags) (s : List Char) : scanBounds f s = (do
    let (least, rest) ← scanCount f (f.skip s)
    let least ← required least
    afterLeast f least rest) := by
  unfold scanBounds
  congr 1
  funext p
  obtain ⟨least, rest⟩ := p
  cases least with
  | none => rfl
  | some least =>
    show _ = afterLeast f least rest
    dsimp only
    split
    · next r =>
      show _ = scanMost f least (f.skip r)
      split
      · next heq =>
        rw [heq]
        rfl
      · next hs =>
        rw [scanMost_other f least hs, scanLimit]
        congr 1
        funext p
        obtain ⟨most, rest⟩ := p
        cases most with
        | none => rfl
        | some most => rfl
    · rfl
    · next hcomma hbrace =>
      rw [afterLeast_other f least (fun r => hcomma r) fun r => hbrace r]
      rfl

theorem steady_upTo (least most : Nat) : Steady t u (upTo least most) := by
  refine .head '\x7d' (by decide) (fun _ => rfl) (fun s hs => ?_) ?_ (.error .repetition)
  · unfold upTo
    split <;> simp_all
  · simp only [upTo]
    split
    · exact .ok _
    · exact .error _

theorem steady_scanMost (ht : ∀ c ∈ t, c = '$') (f : Flags) (least : Nat) :
    Steady t u (scanMost f least) := by
  have hlimit : Steady t u (scanLimit f least) :=
    (steady_scanCount ht f).bind fun most => .first fun most => steady_upTo least most
  exact .head '\x7d' (by decide) (fun _ => rfl) (fun _ => scanMost_other f least) (.ok _) hlimit

theorem steady_afterLeast (ht : ∀ c ∈ t, c = '$') (f : Flags) (least : Nat) :
    Steady t u (afterLeast f least) := by
  refine .cases [([','], fun r => scanMost f least (f.skip r)),
    (['\x7d'], fun rest => .ok ((least, some least), rest))] (by simp) ?_ ?_ ?_
    (.error .repetition)
  · simp only [List.forall_mem_cons]
    exact ⟨fun _ => rfl, fun _ => rfl, nofun⟩
  · exact fun s hs => afterLeast_other f least (fun r hr => by simp_all) fun r hr => by simp_all
  · simp only [List.forall_mem_cons]
    exact ⟨(steady_scanMost ht f least).skip ht f, .ok _, nofun⟩

theorem steady_scanBounds (ht : ∀ c ∈ t, c = '$') (f : Flags) : Steady t u (scanBounds f) := by
  rw [funext (scanBounds_eq f)]
  exact ((steady_scanCount ht f).skip ht f).bind fun least => .first (steady_afterLeast ht f)

theorem scanBounds_close (h : f.skip s = ')' :: t) : ∃ e, scanBounds f s = .error e := by
  rw [scanBounds_eq, h]
  exact ⟨_, rfl⟩

theorem steady_dropLazy {α : Type} (a : α) : Steady t t fun s => .ok (a, dropLazy s) := by
  refine .head '?' (by decide) (fun _ => rfl) (fun s hs => ?_) (.ok a) (.ok a)
  unfold dropLazy
  split <;> simp_all

namespace Reader

def inGroup (r : Reader) (f : Flags) (name : Option String) : Reader :=
  { r with
    flags := f
    names := r.names ++ name.toList
    top := ⟨r.flags, [], []⟩
    below := r.top :: r.below }

def opened (r : Reader) (o : Opening) (s : List Char) : Except PatternError (Reader × List Char) :=
  match o with
  | .switch f =>
    let items := r.top.items ++ [⟨.empty, 0, false⟩]
    .ok ({ r with flags := f, top := { r.top with items } }, s)
  | .group f name =>
    if name.any (· ∈ r.names) then .error .groupName else .ok (r.inGroup f name, s)

def closed (r : Reader) (s : List Char) : Except PatternError (Reader × List Char) :=
  match r.below with
  | [] => .error .groupUnopened
  | parent :: below =>
    let (p, depth) := r.top.close
    let reader : Reader := { r with flags := r.top.outer, top := parent, below }
    .ok (reader.push p (1 + depth), s)

def bounded (r : Reader) (s : List Char) : Except PatternError (Reader × List Char) := do
  let reader ← r.wrap 0 none
  let ((least, most), rest) ← scanBounds r.flags s
  let items := reader.top.items.dropLast ++
    (r.top.items.getLast?.map fun p =>
      (⟨.repeated p.pattern least most, 1 + p.depth, true⟩ : Piece)).toList
  .ok ({ r with top := { r.top with items } }, dropLazy (r.flags.skip rest))

def item (r : Reader) (s : List Char) : Char → Except PatternError (Reader × List Char)
  | '(' => do
    let (o, rest) ← scanOpening r.flags s
    r.opened o rest
  | ')' => r.closed s
  | '|' =>
    let branches := r.top.branches ++ [Piece.sequence r.top.items]
    .ok ({ r with top := { r.top with branches, items := [] } }, s)
  | '[' => do
    let (p, rest) ← scanWholeClass r.flags s
    .ok (r.push (.char p.set) p.depth, rest)
  | '?' => do .ok (← r.wrap 0 (some 1), dropLazy s)
  | '*' => do .ok (← r.wrap 0 none, dropLazy s)
  | '+' => do .ok (← r.wrap 1 none, dropLazy s)
  | '\x7b' => r.bounded s
  | '.' => do .ok (← r.dot, s)
  | '^' => .ok (r.push (.look r.flags.caret) 0, s)
  | '$' => .ok (r.push (.look r.flags.dollar) 0, s)
  | '\\' => do
    let (a, rest) ← scanEscape r.flags s
    .ok (← r.atom a, rest)
  | c => do .ok (← r.atom (.char c false), s)

theorem step_cons (r : Reader) (c : Char) (s : List Char) : r.step (c :: s) = r.item s c := by
  unfold step
  split
  case h_1 h => cases h
  case h_2 h =>
    cases h
    unfold item
    congr 1
    funext p
    obtain ⟨_ | _, _⟩ := p <;> rfl
  case h_5 h =>
    cases h
    show _ = (scanWholeClass r.flags s >>= _)
    rw [scanWholeClass]
    cases openClass r.flags s <;> rfl
  case h_14 h =>
    cases h
    unfold item
    split <;> simp_all
  all_goals
    next h =>
      cases h
      rfl

def within (g : List Group) (r : Reader) : Reader := { r with below := r.below ++ g }

variable {g : List Group} {r : Reader} {s t : List Char}

@[simp]
theorem within_flags : (r.within g).flags = r.flags := rfl

@[simp]
theorem within_top : (r.within g).top = r.top := rfl

@[simp]
theorem within_below : (r.within g).below = r.below ++ g := rfl

theorem within_nil : r.within [] = r := by
  rw [within, List.append_nil]

theorem wrap_within (least : Nat) (most : Option Nat) :
    (r.within g).wrap least most = (r.wrap least most).map (within g) := by
  unfold wrap
  rw [within_top]
  split
  · split <;> rfl
  · rfl

theorem atom_within (a : Atom) : (r.within g).atom a = (r.atom a).map (within g) := by
  unfold atom
  split
  · rw [within_flags]
    split <;> rfl
  · rfl
  · rfl

theorem dot_within : (r.within g).dot = r.dot.map (within g) := by
  unfold dot
  rw [within_flags]
  split <;> rfl

theorem opened_within (o : Opening) : (r.within g).opened o s =
    (r.opened o s).map (Prod.map (within g) id) := by
  unfold opened
  cases o with
  | switch f => rfl
  | group f name =>
    show (if name.any (· ∈ r.names) then Except.error PatternError.groupName
        else .ok ((r.inGroup f name).within g, s)) =
      Except.map (Prod.map (within g) id)
        (if name.any (· ∈ r.names) then Except.error PatternError.groupName
          else .ok (r.inGroup f name, s))
    split <;> rfl

theorem closed_within (h : r.below ≠ []) : (r.within g).closed s =
    (r.closed s).map (Prod.map (within g) id) := by
  unfold closed
  rw [within_below]
  cases hbelow : r.below with
  | nil => exact absurd hbelow h
  | cons parent below => rfl

theorem bounded_within : (r.within g).bounded s =
    (r.bounded s).map (Prod.map (within g) id) := by
  unfold bounded
  rw [wrap_within, within_flags]
  cases r.wrap 0 none with
  | error e => rfl
  | ok r' =>
    cases scanBounds r.flags s with
    | error e => rfl
    | ok b => rfl

theorem item_within {c : Char} (h : c = ')' → r.below ≠ []) : (r.within g).item s c =
    (r.item s c).map (Prod.map (within g) id) := by
  unfold item
  rw [within_flags, within_top]
  split
  case h_1 =>
    cases scanOpening r.flags s with
    | error e => rfl
    | ok p => exact opened_within p.1
  case h_2 => exact closed_within (h rfl)
  case h_3 => rfl
  case h_4 => cases scanWholeClass r.flags s <;> rfl
  case h_8 => exact bounded_within
  case h_9 =>
    rw [dot_within]
    cases r.dot <;> rfl
  case h_10 => rfl
  case h_11 => rfl
  case h_12 =>
    cases scanEscape r.flags s with
    | error e => rfl
    | ok p =>
      show Except.bind ((r.within g).atom p.1) _ = Except.map _ (Except.bind (r.atom p.1) _)
      rw [atom_within]
      cases r.atom p.1 <;> rfl
  case h_13 =>
    rw [atom_within]
    cases r.atom (.char c false) <;> rfl
  all_goals
    rw [wrap_within]
    cases r.wrap _ _ <;> rfl

theorem steady_opened (o : Opening) : Steady t u (r.opened o) := by
  cases o with
  | switch f => exact .ok _
  | group f name =>
    unfold opened
    dsimp only
    split
    · exact .error _
    · exact .ok _

theorem steady_closed : Steady t u r.closed := by
  unfold closed
  split
  · exact .error _
  · exact .ok _

theorem steady_bounded (ht : ∀ c ∈ t, c = '$') : Steady t t r.bounded :=
  .first fun _ => (steady_scanBounds ht r.flags).bind fun _ => (steady_dropLazy _).skip ht r.flags

theorem steady_item (ht : ∀ c ∈ t, c = '$') {c : Char} (hc : c ≠ '\\') :
    Steady t t fun s => r.item s c := by
  unfold item
  split
  case h_1 => exact (steady_scanOpening ht r.flags).bind steady_opened
  case h_2 => exact steady_closed
  case h_3 => exact .ok _
  case h_4 => exact (steady_scanWholeClass ht r.flags).bind fun p => .ok _
  case h_8 => exact steady_bounded ht
  case h_9 => exact .first fun r' => .ok r'
  case h_10 => exact .ok _
  case h_11 => exact .ok _
  case h_12 => exact absurd rfl hc
  case h_13 => exact .first fun r' => .ok r'
  all_goals exact .first steady_dropLazy

theorem item_escape (ht : ∀ c ∈ t, c = '$') (s : List Char) :
    Follows t t (r.item s '\\') (r.item (s ++ ')' :: t) '\\') ∨
      ∃ e r' w, r.item s '\\' = .error e ∧
        r.item (s ++ ')' :: t) '\\' = .ok (r', '\x7b' :: w) ∧ r'.flags = r.flags ∧
        r'.below = r.below ∧ r.flags.skip w = ')' :: t := by
  have hatom : ∀ a, Steady t t fun rest => r.atom a >>= fun r' => .ok (r', rest) := fun a =>
    .first fun r' => .ok r'
  rcases scanEscape_cases ht r.flags s with h | ⟨e, l, w, h, h', hw⟩
  · exact .inl (h.bind (fun a => (hatom a).follows) fun a => (hatom a).leaves)
  · refine .inr ⟨e, r.push (.look l) 0, w, ?_, ?_, rfl, rfl, hw⟩
    · rw [item, h]
      rfl
    · rw [item, h']
      rfl

theorem item_cases (ht : ∀ c ∈ t, c = '$') (r : Reader) (s : List Char) (c : Char) :
    Follows t t (r.item s c) (r.item (s ++ ')' :: t) c) ∨
      ∃ e r' w, r.item s c = .error e ∧ r.item (s ++ ')' :: t) c = .ok (r', '\x7b' :: w) ∧
        r'.flags = r.flags ∧ r'.below = r.below ∧ r.flags.skip w = ')' :: t := by
  by_cases hc : c = '\\'
  · subst hc
    exact item_escape ht s
  · exact .inl ((steady_item ht hc).follows s)

theorem leaves_item (r : Reader) (s : List Char) (c : Char) : Leaves (r.item s c) s := by
  by_cases hc : c = '\\'
  · subst hc
    exact (leaves_scanEscape r.flags s).bind fun a =>
      (Steady.first (t := []) (u := []) fun r' => .ok r').leaves
  · exact (steady_item (t := []) nofun hc).leaves s

def root (r : Reader) : Flags := (r.below.getLast?.map (·.outer)).getD r.top.outer

theorem push_root (p : Pattern) (depth : Nat) : (r.push p depth).root = r.root := rfl

def Rooted (f : Flags) (x : Except PatternError (Reader × List Char)) : Prop :=
  ∀ p, x = .ok p → p.1.root = f

theorem Rooted.ok {r' : Reader} (h : r'.root = f) : Rooted f (.ok (r', s)) := by
  rintro _ ⟨⟩
  exact h

theorem Rooted.error {e : PatternError} : Rooted f (.error e) := by
  intro p h
  cases h

theorem Rooted.bind {α : Type} {x : Except PatternError α}
    {k : α → Except PatternError (Reader × List Char)} (hk : ∀ a, x = .ok a → Rooted f (k a)) :
    Rooted f (x >>= k) := by
  cases x with
  | error e => exact .error
  | ok a => exact hk a rfl

theorem wrap_root {r' : Reader} {least : Nat} {most : Option Nat}
    (h : r.wrap least most = .ok r') : r'.root = r.root := by
  unfold wrap at h
  split at h
  · split at h
    · cases h
      rfl
    · cases h
  · cases h

theorem atom_root {r' : Reader} {a : Atom} (h : r.atom a = .ok r') : r'.root = r.root := by
  unfold atom at h
  split at h
  · split at h <;> cases h
    rfl
  · cases h
    rfl
  · cases h
    rfl

theorem dot_root {r' : Reader} (h : r.dot = .ok r') : r'.root = r.root := by
  unfold dot at h
  split at h
  · cases h
  · cases h
    rfl

theorem inGroup_root (f : Flags) (name : Option String) : (r.inGroup f name).root = r.root := by
  rw [root, root, inGroup, List.getLast?_cons]
  cases r.below.getLast? <;> rfl

theorem opened_root (o : Opening) : Rooted r.root (r.opened o s) := by
  unfold opened
  split
  · exact .ok rfl
  · split
    · exact .error
    · exact .ok (inGroup_root _ _)

theorem closed_root : Rooted r.root (r.closed s) := by
  unfold closed
  split
  · exact .error
  · next parent below h =>
    refine .ok ((push_root _ _).trans ?_)
    rw [root, root, h, List.getLast?_cons]
    cases below.getLast? <;> rfl

theorem item_root (r : Reader) (s : List Char) (c : Char) : Rooted r.root (r.item s c) := by
  unfold item
  split
  case h_1 => exact .bind fun p _ => opened_root p.1
  case h_2 => exact closed_root
  case h_3 => exact .ok rfl
  case h_4 => exact .bind fun p _ => .ok (push_root _ _)
  case h_8 => exact .bind fun r' _ => .bind fun p _ => .ok rfl
  case h_9 => exact .bind fun r' h => .ok (dot_root h)
  case h_10 => exact .ok (push_root _ _)
  case h_11 => exact .ok (push_root _ _)
  case h_12 => exact .bind fun p _ => .bind fun r' h => .ok (atom_root h)
  case h_13 => exact .bind fun r' h => .ok (atom_root h)
  all_goals exact .bind fun r' h => .ok (wrap_root h)

theorem run_end {n : Nat} (h : r.flags.skip s = []) : r.run n s = .ok r := by
  cases n with
  | zero => rfl
  | succ n =>
    rw [run, h]

theorem run_item {n : Nat} {c : Char} {w : List Char} (h : r.flags.skip s = c :: w) :
    r.run (n + 1) s = r.item w c >>= fun p => p.1.run n p.2 := by
  rw [run, h]
  show r.step (c :: w) >>= _ = _
  rw [step_cons]

theorem run_skipped {n : Nat} (h : r.flags.skip s = r.flags.skip t) : r.run n s = r.run n t := by
  cases n with
  | zero => rfl
  | succ n => rw [run, run, h]

theorem run_dollars (r : Reader) (n : Nat) (hs : ∀ c ∈ s, c = '$') :
    ∃ r', r.run n s = .ok r' ∧ r'.below = r.below := by
  induction n generalizing r s with
  | zero => exact ⟨r, rfl, rfl⟩
  | succ n ih =>
    cases s with
    | nil => exact ⟨r, run_end (skip_nil _), rfl⟩
    | cons c s =>
      obtain ⟨rfl, hrest⟩ := List.forall_mem_cons.mp hs
      rw [run_item (skip_solid r.flags rfl (by decide))]
      exact ih (r.push (.look r.flags.dollar) 0) hrest

theorem item_opened {p : Reader × List Char} {c : Char} (h : r.item s c = .ok p) :
    c = ')' → r.below ≠ [] := by
  rintro rfl hbelow
  rw [item, closed, hbelow] at h
  cases h

theorem run_cases (r : Reader) (n : Nat) (s : List Char) :
    (r.flags.skip s = [] ∧ r.run (n + 1) s = .ok r) ∨
    (∃ c w e, r.flags.skip s = c :: w ∧ r.item w c = .error e ∧ r.run (n + 1) s = .error e) ∨
    ∃ c w r₁ rest, r.flags.skip s = c :: w ∧ r.item w c = .ok (r₁, rest) ∧
      r.run (n + 1) s = r₁.run n rest := by
  rcases hw : r.flags.skip s with _ | ⟨c, w⟩
  · exact .inl ⟨rfl, run_end hw⟩
  · rw [run_item hw]
    cases hitem : r.item w c with
    | error e => exact .inr (.inl ⟨c, w, e, rfl, hitem, rfl⟩)
    | ok p => exact .inr (.inr ⟨c, w, p.1, p.2, rfl, hitem, rfl⟩)

theorem run_root {n : Nat} {r r' : Reader} (h : r.run n s = .ok r') : r'.root = r.root := by
  induction n generalizing r s with
  | zero =>
    cases h
    rfl
  | succ n ih =>
    rcases run_cases r n s with ⟨-, hrun⟩ | ⟨_, _, _, -, -, hrun⟩ | ⟨c, w, r₁, rest, -, hitem, hrun⟩
    · cases hrun.symm.trans h
      rfl
    · cases hrun.symm.trans h
    · exact (ih (hrun.symm.trans h)).trans (item_root r w c _ hitem)

/-- An item that can be read is read in the same way with more text behind it, inside of any
groups. The rest comes after it, unless a comment swallows what follows. -/
theorem run_next (ht : ∀ c ∈ t, c = '$') {c : Char} {w rest : List Char} {r₁ : Reader}
    (hw : r.flags.skip s = c :: w) (hitem : r.item w c = .ok (r₁, rest)) :
    (∀ g m, (r.within g).run (m + 1) (s ++ ')' :: t) =
      (r₁.within g).run m (rest ++ ')' :: t)) ∨
    (rest = [] ∧ ∀ g m, (r.within g).run (m + 1) (s ++ ')' :: t) = .ok (r₁.within g)) := by
  have hstep : ∀ g m, (r.within g).run (m + 1) (s ++ ')' :: t) =
      (r.item (w ++ ')' :: t) c).map (Prod.map (within g) id) >>= fun p => p.1.run m p.2 := by
    intro g m
    rw [← item_within (item_opened hitem)]
    exact run_item (skip_append_cons ht hw)
  rcases item_cases ht r w c with hfollows | ⟨e, _, _, herror, -⟩
  · rw [hitem] at hfollows
    generalize r.item (w ++ ')' :: t) c = y at hfollows hstep
    cases hfollows with
    | kept => exact .inl hstep
    | drained => exact .inr ⟨rfl, fun g m => (hstep g m).trans (run_end (skip_nil _))⟩
  · rw [hitem] at herror
    cases herror

theorem run_ok (ht : ∀ c ∈ t, c = '$') {n : Nat} {r r' : Reader} (h : r.run n s = .ok r')
    (hn : s.length < n) :
    (∀ g m, (s ++ ')' :: t).length < m → ∃ k, (')' :: t).length < k ∧
      (r.within g).run m (s ++ ')' :: t) = (r'.within g).run k (')' :: t)) ∨
    ∀ g m, (s ++ ')' :: t).length < m → (r.within g).run m (s ++ ')' :: t) = .ok (r'.within g) := by
  have hsucc : ∀ {s : List Char} {m}, s.length < m → ∃ k, m = k + 1 := fun hm =>
    Nat.exists_eq_add_one.mpr (Nat.zero_lt_of_lt hm)
  induction n generalizing s r with
  | zero => exact absurd hn (Nat.not_lt_zero _)
  | succ n ih =>
    rcases run_cases r n s with ⟨hw, hrun⟩ | ⟨_, _, _, -, -, hrun⟩ |
      ⟨c, w, r₁, rest, hw, hitem, hrun⟩
    · obtain rfl := Except.ok.inj (hrun.symm.trans h)
      rcases skip_append ht r.flags s with hskip | ⟨-, hskip⟩
      · refine .inl fun g m hm => ⟨m, by simp at hm ⊢; omega, run_skipped ?_⟩
        rw [within_flags, hskip, hw, skip_close, List.nil_append]
      · exact .inr fun g m _ => run_end hskip
    · cases hrun.symm.trans h
    · have hgo := hrun.symm.trans h
      have hskip : (c :: w).length ≤ s.length := hw ▸ (skip_suffix r.flags s).length_le
      have hrest := (leaves_item r w c r₁ rest hitem).length_le
      rw [List.length_cons] at hskip
      rcases run_next ht hw hitem with hnext | ⟨rfl, hnext⟩
      · refine (ih hgo (by omega)).imp (fun hrun g m hm => ?_) fun hrun g m hm => ?_
        all_goals
          obtain ⟨m, rfl⟩ := hsucc hm
          rw [hnext]
          exact hrun g m (by simp at hm ⊢; omega)
      · -- The item has swallowed what follows, and the reading is at its end.
        rw [run_end (skip_nil _)] at hgo
        cases hgo
        refine .inr fun g m hm => ?_
        obtain ⟨m, rfl⟩ := hsucc hm
        exact hnext g m

def StaysOpen (x : Except PatternError Reader) : Prop :=
  ∀ r, x = .ok r → r.below ≠ []

theorem StaysOpen.ok {r : Reader} (h : r.below ≠ []) : StaysOpen (.ok r) := by
  rintro _ ⟨⟩
  exact h

theorem StaysOpen.error {e : PatternError} : StaysOpen (.error e) := by
  intro r h
  cases h

theorem staysOpen_dollars (n : Nat) (hs : ∀ c ∈ s, c = '$') (h : r.below ≠ []) :
    StaysOpen (r.run n s) := by
  obtain ⟨r', hrun, hbelow⟩ := run_dollars r n hs
  rw [hrun]
  exact .ok (hbelow ▸ h)

theorem staysOpen_brace (n : Nat) {w : List Char} (hw : r.flags.skip w = ')' :: t)
    (h : r.below ≠ []) : StaysOpen (r.run n ('\x7b' :: w)) := by
  cases n with
  | zero => exact .ok h
  | succ n =>
    obtain ⟨e, he⟩ := scanBounds_close hw
    rw [run_item (skip_solid r.flags rfl (by decide)), item, bounded, he]
    cases r.wrap 0 none <;> exact .error

theorem within_below_ne {g : List Group} (hg : g ≠ []) (r : Reader) :
    (r.within g).below ≠ [] := by
  simp [hg]

theorem staysOpen_item (ht : ∀ c ∈ t, c = '$') {g : List Group} (hg : g ≠ []) {c : Char}
    {w : List Char} {e : PatternError} (hw : r.flags.skip s = c :: w)
    (hitem : r.item w c = .error e) (he : e ≠ .groupUnopened) (m : Nat) :
    StaysOpen ((r.within g).run (m + 1) (s ++ ')' :: t)) := by
  have hskip : (r.within g).flags.skip (s ++ ')' :: t) = _ := skip_append_cons ht hw
  have hclose : c = ')' → r.below ≠ [] := by
    rintro rfl hbelow
    rw [item, closed, hbelow] at hitem
    cases hitem
    exact he rfl
  rw [run_item hskip, item_within hclose]
  rcases item_cases ht r w c with hfollows | ⟨_, r', w', -, hr', hflags, hbelow, hw'⟩
  · rw [hitem] at hfollows
    generalize r.item (w ++ ')' :: t) c = y at hfollows
    cases hfollows with
    | lost _ a hr =>
      -- The item goes on into what follows, so that only dollars are left.
      exact staysOpen_dollars m (fun d hd => ht d (hr.subset hd)) (within_below_ne hg a)
    | failed => exact .error
  · rw [hr']
    exact staysOpen_brace m (hflags ▸ hw') (within_below_ne hg r')

/-- Where a text is no pattern, but not for closing a group too many, what follows it does not
close the groups outside of it. -/
theorem run_error (ht : ∀ c ∈ t, c = '$') {g : List Group} (hg : g ≠ []) {n : Nat} (m : Nat)
    {r : Reader} {e : PatternError} (h : r.run n s = .error e) (he : e ≠ .groupUnopened) :
    StaysOpen ((r.within g).run m (s ++ ')' :: t)) := by
  induction n generalizing r s m with
  | zero => cases h
  | succ n ih =>
    rcases m with _ | m
    · exact .ok (within_below_ne hg r)
    rcases run_cases r n s with ⟨-, hrun⟩ | ⟨c, w, e', hw, hitem, hrun⟩ |
      ⟨c, w, r₁, rest, hw, hitem, hrun⟩
    · cases hrun.symm.trans h
    · cases hrun.symm.trans h
      exact staysOpen_item ht hg hw hitem he m
    · have hgo := hrun.symm.trans h
      rcases run_next ht hw hitem with hnext | ⟨rfl, -⟩
      · rw [hnext]
        exact ih m hgo
      · rw [run_end (skip_nil _)] at hgo
        cases hgo

end Reader

end Testbed.Pattern
