import Testbed.Metrics.Matcher
import Testbed.Pattern.Common
import Testbed.Proofs.Reading
import Testbed.Proofs.Spans

/-!
Matchers that compare with a pattern: the pattern is put into a group between the ends of the
text. The group is meant to hold it whole, which it does unless the pattern closes the group
itself or hides its end.
-/
namespace Testbed.Pattern

def Compiles (d : Dialect) (p : String) : Prop := ∃ q, ofString d p = .ok q

def Reader.fresh (d : Dialect) : Reader := ⟨.initial d, [], ⟨.initial d, [], []⟩, []⟩

def Reader.whole (r : Reader) : Except PatternError (Pattern × Nat) :=
  if r.below = [] then .ok r.top.close else .error .groupUnclosed

/-- What a text is read as, however deep or large it is. -/
def readingOf (d : Dialect) (p : String) : Except PatternError (Pattern × Nat) :=
  (Reader.fresh d).run (p.toList.length + 1) p.toList >>= Reader.whole

/-- A pattern that nests so deep is within the limits of an engine. -/
def Dialect.Admits (d : Dialect) (q : Pattern) (depth : Nat) : Prop :=
  depth ≤ d.depthLimit ∧ d.fits q = true

def limited (d : Dialect) : Pattern × Nat → Except PatternError Pattern
  | (p, depth) =>
    if d.depthLimit < depth then .error .tooDeep
    else if d.fits p then .ok p
    else .error .tooLarge

variable {d : Dialect}

theorem ofString_eq (d : Dialect) (p : String) : ofString d p = readingOf d p >>= limited d := by
  unfold ofString readingOf
  show (Reader.fresh d).run _ _ >>= _ = _
  cases (Reader.fresh d).run (p.toList.length + 1) p.toList with
  | error e => rfl
  | ok r =>
    show (if r.below ≠ [] then _ else _) = r.whole >>= limited d
    unfold Reader.whole
    by_cases h : r.below = []
    · rw [if_neg (not_not.mpr h), if_pos h]
      rfl
    · rw [if_pos h, if_neg h]
      rfl

theorem limited_ok {p q : Pattern} {depth : Nat} :
    limited d (p, depth) = .ok q ↔ p = q ∧ d.Admits p depth := by
  unfold limited Dialect.Admits
  dsimp only
  split
  · next h => exact ⟨nofun, fun ⟨_, hdepth, _⟩ => absurd hdepth (Nat.not_le.mpr h)⟩
  · next hdepth =>
    split
    · next hfits =>
      exact ⟨fun h => ⟨Except.ok.inj h, Nat.not_lt.mp hdepth, hfits⟩, fun ⟨h, _⟩ => congrArg _ h⟩
    · next h => exact ⟨nofun, fun ⟨_, _, hfits⟩ => absurd hfits h⟩

theorem ofString_ok {p : String} {q : Pattern} : ofString d p = .ok q ↔
    ∃ depth, readingOf d p = .ok (q, depth) ∧ d.Admits q depth := by
  rw [ofString_eq]
  cases readingOf d p with
  | error e => exact ⟨nofun, nofun⟩
  | ok r =>
    obtain ⟨q', depth⟩ := r
    show limited d (q', depth) = .ok q ↔ _
    rw [limited_ok]
    constructor
    · rintro ⟨rfl, h⟩
      exact ⟨depth, rfl, h⟩
    · rintro ⟨_, ⟨⟩, h⟩
      exact ⟨rfl, h⟩

def ahead (d : Dialect) : Group := ⟨.initial d, [], [⟨.look .start, 0, true⟩]⟩

theorem toList_anchored (p : String) : (Metrics.Matcher.anchored p).toList =
    '^' :: '(' :: '?' :: ':' :: (p.toList ++ [')', '$']) := by
  simp [Metrics.Matcher.anchored]

theorem run_anchored (n : Nat) (s : List Char) :
    (Reader.fresh d).run (n + 2) ('^' :: '(' :: '?' :: ':' :: s) =
      ((Reader.fresh d).within [ahead d]).run n s := by
  rfl

theorem readingOf_group (p : String) : readingOf d (Metrics.Matcher.anchored p) =
    ((Reader.fresh d).within [ahead d]).run (p.toList.length + 5) (p.toList ++ [')', '$']) >>=
      Reader.whole := by
  rw [readingOf, toList_anchored, ← run_anchored]
  simp

theorem run_close {r : Reader} (hbelow : r.below = []) (hroot : r.root = .initial d) (n : Nat) :
    (r.within [ahead d]).run (n + 3) [')', '$'] >>= Reader.whole =
      .ok (between r.top.close.1, r.top.close.2 + 2) := by
  obtain ⟨flags, names, top, below⟩ := r
  subst hbelow
  have houter : top.outer = .initial d := hroot
  rw [Reader.run_item (skip_close _)]
  show Reader.run (n + 2) ⟨top.outer, names, ⟨.initial d, [], (ahead d).items ++
    [⟨top.close.1, 1 + top.close.2, true⟩]⟩, []⟩ ['$'] >>= Reader.whole = _
  rw [houter]
  have hdepth : 1 + max (max (max 0 0) (1 + top.close.2)) 0 = top.close.2 + 2 := by omega
  exact congrArg (fun depth => Except.ok (between top.close.1, depth)) hdepth

theorem run_unopened {r : Reader} (hbelow : r.below = []) {k : Nat} (hk : 0 < k) :
    r.run k [')', '$'] = .error .groupUnopened := by
  obtain ⟨k, rfl⟩ := Nat.exists_eq_add_one.mpr hk
  rw [Reader.run_item (skip_close _), Reader.item, Reader.closed, hbelow]
  rfl

theorem Reader.StaysOpen.whole {x : Except PatternError Reader} (h : Reader.StaysOpen x) :
    ∃ e, x >>= Reader.whole = .error e := by
  cases x with
  | error e => exact ⟨e, rfl⟩
  | ok r => exact ⟨.groupUnclosed, if_neg (h r rfl)⟩

theorem staysOpen_close {r : Reader} {g : List Group} (h : r.below ≠ []) (hg : g ≠ []) (k : Nat) :
    Reader.StaysOpen ((r.within g).run k [')', '$']) := by
  cases k with
  | zero => exact .ok (by simp [hg])
  | succ k =>
    rw [Reader.run_item (skip_close _), Reader.item, Reader.closed_within h, Reader.closed]
    cases hbelow : r.below with
    | nil => exact absurd hbelow h
    | cons parent below => exact Reader.staysOpen_dollars k (by simp) (by simp [hg])

theorem run_of_reading {p : String} {q : Pattern} {depth : Nat}
    (h : readingOf d p = .ok (q, depth)) :
    ∃ r, (Reader.fresh d).run (p.toList.length + 1) p.toList = .ok r ∧ r.below = [] ∧
      r.top.close = (q, depth) := by
  unfold readingOf at h
  cases hrun : (Reader.fresh d).run (p.toList.length + 1) p.toList with
  | error e =>
    rw [hrun] at h
    cases h
  | ok r =>
    rw [hrun] at h
    change r.whole = _ at h
    unfold Reader.whole at h
    split at h
    · next hbelow => exact ⟨r, rfl, hbelow, Except.ok.inj h⟩
    · cases h

/-- A pattern in the group is read as it is by itself, unless it hides what closes the group; it
hides that as well where it stands alone. -/
theorem reading_anchored {p : String} {q : Pattern} {depth : Nat}
    (h : readingOf d p = .ok (q, depth)) :
    ((∃ e, readingOf d (p ++ ")$") = .error e) ∧
      readingOf d (Metrics.Matcher.anchored p) = .ok (between q, depth + 2)) ∨
    (readingOf d (p ++ ")$") = .ok (q, depth) ∧
      ∃ e, readingOf d (Metrics.Matcher.anchored p) = .error e) := by
  obtain ⟨r, hrun, hbelow, hclose⟩ := run_of_reading h
  have hroot : r.root = .initial d := Reader.run_root hrun
  have halone : readingOf d (p ++ ")$") = ((Reader.fresh d).within []).run (p.toList.length + 3)
      (p.toList ++ [')', '$']) >>= Reader.whole := by
    simp [readingOf, Reader.within_nil]
  rcases Reader.run_ok (t := ['$']) (by simp) hrun (Nat.lt_succ_self _) with hkept | hhidden
  · obtain ⟨k, hk, heq⟩ := hkept [] (p.toList.length + 3) (by simp)
    obtain ⟨k', hk', heq'⟩ := hkept [ahead d] (p.toList.length + 5) (by simp)
    obtain ⟨n, rfl⟩ : ∃ n, k' = n + 3 := ⟨k' - 3, by simp at hk'; omega⟩
    refine .inl ⟨⟨.groupUnopened, ?_⟩, ?_⟩
    · rw [halone, heq, Reader.within_nil, run_unopened hbelow (Nat.zero_lt_of_lt hk)]
      rfl
    · rw [readingOf_group, heq', run_close hbelow hroot, hclose]
  · refine .inr ⟨?_, .groupUnclosed, ?_⟩
    · rw [halone, hhidden [] _ (by simp), Reader.within_nil]
      exact (if_pos hbelow).trans (congrArg _ hclose)
    · rw [readingOf_group, hhidden [ahead d] _ (by simp)]
      exact if_neg (by simp)

theorem reading_anchored_error {p : String} {e : PatternError} (h : readingOf d p = .error e)
    (he : e ≠ .groupUnopened) : ∃ e', readingOf d (Metrics.Matcher.anchored p) = .error e' := by
  rw [readingOf_group]
  refine Reader.StaysOpen.whole ?_
  unfold readingOf at h
  cases hrun : (Reader.fresh d).run (p.toList.length + 1) p.toList with
  | error e' =>
    rw [hrun] at h
    cases h
    exact Reader.run_error (by simp) (by simp) _ hrun he
  | ok r =>
    have hbelow : r.below ≠ [] := fun hbelow => by
      rw [hrun] at h
      cases (if_pos hbelow).symm.trans h
    rcases Reader.run_ok (t := ['$']) (by simp) hrun (Nat.lt_succ_self _) with hkept | hhidden
    · obtain ⟨k, -, heq⟩ := hkept [ahead d] (p.toList.length + 5) (by simp)
      rw [heq]
      exact staysOpen_close hbelow (by simp) k
    · rw [hhidden [ahead d] _ (by simp)]
      exact .ok (by simp)

theorem compiles_of_reading {p : String} {q : Pattern} {depth : Nat}
    (h : readingOf d p = .ok (q, depth)) : Compiles d p ↔ d.Admits q depth := by
  simp only [Compiles, ofString_ok, h]
  constructor
  · rintro ⟨_, _, ⟨⟩, hadmits⟩
    exact hadmits
  · exact fun hadmits => ⟨q, depth, rfl, hadmits⟩

theorem not_compiles {p : String} {e : PatternError} (h : readingOf d p = .error e) :
    ¬Compiles d p := by
  rintro ⟨q, hq⟩
  obtain ⟨depth, hread, -⟩ := ofString_ok.mp hq
  rw [h] at hread
  cases hread

theorem ofString_anchored {p : String} {q q' : Pattern} (h : ofString d p = .ok q)
    (h' : ofString d (Metrics.Matcher.anchored p) = .ok q') : q' = between q := by
  obtain ⟨depth, hread, -⟩ := ofString_ok.mp h
  obtain ⟨depth', hread', -⟩ := ofString_ok.mp h'
  rcases reading_anchored hread with ⟨-, hgroup⟩ | ⟨-, e, herror⟩
  · rw [hgroup] at hread'
    cases hread'
    rfl
  · rw [herror] at hread'
    cases hread'

/-- A text that goes on in a comment: what is put behind it is not read. -/
def Hides (d : Dialect) (p : String) : Prop := readingOf d (p ++ ")$") = readingOf d p

theorem compiles_anchored {p : String} {q : Pattern} {depth : Nat}
    (h : readingOf d p = .ok (q, depth)) : Compiles d (Metrics.Matcher.anchored p) ↔
      ¬Hides d p ∧ d.Admits (between q) (depth + 2) := by
  unfold Hides
  rcases reading_anchored h with ⟨⟨e, hbehind⟩, hgroup⟩ | ⟨hbehind, e, hgroup⟩
  · rw [compiles_of_reading hgroup, hbehind, h]
    simp
  · rw [hbehind, h]
    exact iff_of_false (not_compiles hgroup) fun ⟨hhides, _⟩ => hhides rfl

end Testbed.Pattern

namespace Testbed.Metrics

open Pattern

variable {d : Dialect}

/-- The matchers of a pattern can be made exactly if the pattern is one by itself, and compare it
with the whole of a value. -/
structure WholeMatch (d : Dialect) (label p : String) : Prop where
  made : ∀ c, c.usesPattern = true → ((∃ m, Matcher.make d c label p = .ok m) ↔ Compiles d p)
  accepts : ∀ q m, ofString d p = .ok q → Matcher.make d .pattern label p = .ok m →
    ∀ v, m.accepts v = true ↔ q.SpansAll v
  rejects : ∀ q m, ofString d p = .ok q → Matcher.make d .notPattern label p = .ok m →
    ∀ v, m.accepts v = true ↔ ¬q.SpansAll v

theorem make_pattern {c : Comparison} (hc : c.usesPattern = true) {label p : String} {m : Matcher} :
    Matcher.make d c label p = .ok m ↔
      ∃ q, ofString d (Matcher.anchored p) = .ok q ∧ ⟨label, c, p, some q⟩ = m := by
  unfold Matcher.make
  rw [if_pos hc]
  cases ofString d (Matcher.anchored p) with
  | error e => exact ⟨nofun, nofun⟩
  | ok q =>
    constructor
    · exact fun h => ⟨q, rfl, Except.ok.inj h⟩
    · rintro ⟨_, ⟨⟩, rfl⟩
      rfl

theorem make_pattern_iff {c : Comparison} (hc : c.usesPattern = true) (label p : String) :
    (∃ m, Matcher.make d c label p = .ok m) ↔ Compiles d (Matcher.anchored p) := by
  simp only [make_pattern hc]
  exact ⟨fun ⟨_, q, h, _⟩ => ⟨q, h⟩, fun ⟨q, h⟩ => ⟨_, q, h, rfl⟩⟩

theorem accepts_pattern {label p v : String} {q : Pattern} {m : Matcher}
    (hp : ofString d p = .ok q) (hm : Matcher.make d .pattern label p = .ok m) :
    m.accepts v = true ↔ q.SpansAll v := by
  obtain ⟨q', hq', rfl⟩ := (make_pattern rfl).mp hm
  rw [ofString_anchored hp hq']
  exact found_between q v

theorem accepts_notPattern {label p v : String} {q : Pattern} {m : Matcher}
    (hp : ofString d p = .ok q) (hm : Matcher.make d .notPattern label p = .ok m) :
    m.accepts v = true ↔ ¬q.SpansAll v := by
  obtain ⟨q', hq', rfl⟩ := (make_pattern rfl).mp hm
  rw [ofString_anchored hp hq', ← found_between]
  show (!(between q).found v) = true ↔ _
  rw [Bool.not_eq_true', Bool.not_eq_true]

theorem wholeMatch_iff_compiles (label p : String) :
    WholeMatch d label p ↔ (Compiles d (Matcher.anchored p) ↔ Compiles d p) := by
  constructor
  · exact fun h => (make_pattern_iff rfl label p).symm.trans (h.made .pattern rfl)
  · exact fun h => ⟨fun c hc => (make_pattern_iff hc label p).trans h,
      fun q m hp hm v => accepts_pattern hp hm, fun q m hp hm v => accepts_notPattern hp hm⟩

/-- Whatever the engine's tables and limits, the matchers of a pattern compare it with whole values
unless the pattern hides what closes the group it is put into, is within the limits only without or
only with the group, or, being no pattern by itself, closes the group. -/
theorem wholeMatch_iff (d : Dialect) (label p : String) : WholeMatch d label p ↔
    (∀ q depth, readingOf d p = .ok (q, depth) →
      (d.Admits q depth ↔ ¬Hides d p ∧ d.Admits (between q) (depth + 2))) ∧
    (readingOf d p = .error .groupUnopened → ¬Compiles d (Matcher.anchored p)) := by
  rw [wholeMatch_iff_compiles]
  cases hread : readingOf d p with
  | ok r =>
    obtain ⟨q, depth⟩ := r
    rw [compiles_anchored hread, compiles_of_reading hread]
    constructor
    · rintro h
      refine ⟨?_, nofun⟩
      rintro _ _ ⟨⟩
      exact h.symm
    · exact fun h => (h.1 q depth rfl).symm
  | error e =>
    have hbare := not_compiles hread
    constructor
    · exact fun h => ⟨nofun, fun _ => mt h.mp hbare⟩
    · rintro ⟨-, hwrong⟩
      refine iff_of_false ?_ hbare
      by_cases he : e = .groupUnopened
      · exact hwrong (congrArg _ he)
      · obtain ⟨e', herror⟩ := reading_anchored_error hread he
        exact not_compiles herror

def reopened : Pattern :=
  .either (.seq (.look .start) (.char (.single 'a'))) (.seq (.char (.single 'b')) (.look .stop))

theorem not_wholeMatch_reopening (hd : d.Admits reopened 3) (label : String) :
    ¬WholeMatch d label "a)|(?:b" := by
  rw [wholeMatch_iff_compiles]
  have hgroup : readingOf d (Matcher.anchored "a)|(?:b") = .ok (reopened, 3) := by rfl
  have hbare : readingOf d "a)|(?:b" = .error .groupUnopened := by rfl
  exact fun h => not_compiles hbare (h.mp ((compiles_of_reading hgroup).mpr hd))

theorem wholeMatch_unopened : ¬∀ label p, WholeMatch .common label p :=
  fun h => not_wholeMatch_reopening ⟨by decide, by decide⟩ "l" (h "l" "a)|(?:b")

end Testbed.Metrics
