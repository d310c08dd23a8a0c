import Mathlib.Logic.Function.Iterate
import Mathlib.Tactic.Tauto
import Testbed.Pattern.Basic

/-!
What patterns mean: which stretches of a text a pattern spans. The positions that are computed
for a pattern are the ends of its spans, so that a search between the ends of a text tells
whether the pattern spans all of it.
-/
namespace Testbed.Pattern

inductive Copies (step : Nat → Nat → Prop) : Nat → Nat → Nat → Prop
  | none (i : Nat) : Copies step 0 i i
  | more {n i j k : Nat} (first : step i j) (rest : Copies step n j k) : Copies step (n + 1) i k

/-- A pattern spans a stretch of a text, from one position to another. Conditions on places look
at the whole text. -/
def Spans (text : Array Char) : Pattern → Nat → Nat → Prop
  | empty, i, j => i = j
  | char set, i, j => text[i]?.any set.mem = true ∧ j = i + 1
  | look l, i, j => l.holds (before text i) text[i]? = true ∧ i = j
  | seq p q, i, k => ∃ j, p.Spans text i j ∧ q.Spans text j k
  | either p q, i, j => p.Spans text i j ∨ q.Spans text i j
  | repeated p least most, i, j =>
    ∃ more, (∀ m ∈ most, more ≤ m - least) ∧ Copies (p.Spans text) (least + more) i j

variable {step : Nat → Nat → Prop} {text : Array Char} {p q : Pattern} {f : List Nat → List Nat}
  {a b s : List Nat} {n m i j k : Nat}

theorem copies_add : Copies step (n + m) i k ↔ ∃ j, Copies step n i j ∧ Copies step m j k := by
  induction n generalizing i with
  | zero =>
    rw [Nat.zero_add]
    constructor
    · exact fun h => ⟨i, .none i, h⟩
    · rintro ⟨j, h, h'⟩
      cases h
      exact h'
  | succ n ih =>
    rw [Nat.succ_add]
    constructor
    · intro h
      cases h with
      | more first rest =>
        obtain ⟨j, h, h'⟩ := ih.mp rest
        exact ⟨j, .more first h, h'⟩
    · rintro ⟨j, h, h'⟩
      cases h with
      | more first rest => exact .more first (ih.mpr ⟨j, rest, h'⟩)

theorem Copies.le (hstep : ∀ i j, step i j → i ≤ j) (h : Copies step n i j) : i ≤ j := by
  induction h with
  | none => exact Nat.le_refl _
  | more first _ ih => exact Nat.le_trans (hstep _ _ first) ih

theorem Copies.shorten (hstep : ∀ i j, step i j → i ≤ j) (h : Copies step n i j) :
    ∃ m, m ≤ n ∧ m ≤ j - i ∧ Copies step m i j := by
  induction h with
  | none i => exact ⟨0, Nat.le_refl 0, Nat.zero_le _, .none i⟩
  | @more n i j k first rest ih =>
    obtain ⟨m, hn, hm, hcopies⟩ := ih
    have hij := hstep i j first
    have hjk := rest.le hstep
    rcases Nat.eq_or_lt_of_le hij with rfl | hlt
    · exact ⟨m, by omega, hm, hcopies⟩
    · exact ⟨m + 1, by omega, by omega, .more first hcopies⟩

theorem mem_merge : k ∈ merge a b ↔ k ∈ a ∨ k ∈ b := by
  fun_induction merge a b with
  | case1 b => simp
  | case2 a h => simp
  | case3 x a y b hlt ih => simp [ih, or_assoc]
  | case4 x a y b _ hlt ih => simp [ih, or_assoc, or_left_comm]
  | case5 x a y b hxy hyx ih =>
    obtain rfl : x = y := by omega
    simp only [List.mem_cons, ih]
    tauto

theorem rounds_eq_iterate (f : List Nat → List Nat) (n : Nat) (s : List Nat) :
    rounds f n s = f^[n] s := by
  induction n generalizing s with
  | zero => rfl
  | succ n ih =>
    rw [rounds, Function.iterate_succ_apply]
    split
    · next hs => rw [hs, Function.iterate_fixed hs]
    · exact ih (f s)

def Carries (step : Nat → Nat → Prop) (f : List Nat → List Nat) : Prop :=
  ∀ s k, k ∈ f s ↔ ∃ i ∈ s, step i k

theorem Carries.iterate (hf : Carries step f) (n : Nat) : Carries (Copies step n) f^[n] := by
  induction n with
  | zero =>
    intro s k
    constructor
    · exact fun h => ⟨k, h, .none k⟩
    · rintro ⟨i, hi, h⟩
      cases h
      exact hi
  | succ n ih =>
    intro s k
    rw [Function.iterate_succ_apply, ih]
    constructor
    · rintro ⟨j, hj, h⟩
      obtain ⟨i, hi, hstep⟩ := (hf s j).mp hj
      exact ⟨i, hi, .more hstep h⟩
    · rintro ⟨i, hi, h⟩
      cases h with
      | more first rest => exact ⟨_, (hf s _).mpr ⟨i, hi, first⟩, rest⟩

theorem copies_or_eq :
    Copies (fun i j => i = j ∨ step i j) n i k ↔ ∃ m, m ≤ n ∧ Copies step m i k := by
  constructor
  · intro h
    induction h with
    | none i => exact ⟨0, Nat.le_refl 0, .none i⟩
    | more first _ ih =>
      obtain ⟨m, hm, hcopies⟩ := ih
      rcases first with rfl | first
      · exact ⟨m, Nat.le_succ_of_le hm, hcopies⟩
      · exact ⟨m + 1, Nat.succ_le_succ hm, .more first hcopies⟩
  · rintro ⟨m, hm, h⟩
    induction n generalizing m i with
    | zero =>
      cases Nat.le_zero.mp hm
      cases h
      exact .none _
    | succ n ih =>
      cases h with
      | none => exact .more (.inl rfl) (ih 0 (Nat.zero_le n) (.none _))
      | more first rest => exact .more (.inr first) (ih _ (Nat.le_of_succ_le_succ hm) rest)

theorem Carries.merge (hf : Carries step f) :
    Carries (fun i j => i = j ∨ step i j) fun s => merge s (f s) := by
  intro s k
  rw [mem_merge, hf s k]
  constructor
  · rintro (hk | ⟨i, hi, h⟩)
    · exact ⟨k, hk, .inl rfl⟩
    · exact ⟨i, hi, .inr h⟩
  · rintro ⟨i, hi, rfl | h⟩
    · exact .inl hi
    · exact .inr ⟨i, hi, h⟩

theorem Spans.le (h : p.Spans text i j) : i ≤ j := by
  induction p generalizing i j with
  | empty => exact Nat.le_of_eq h
  | char set =>
    obtain ⟨-, rfl⟩ := h
    exact Nat.le_succ i
  | look l => exact Nat.le_of_eq h.2
  | seq p q ihp ihq =>
    obtain ⟨k, hp, hq⟩ := h
    exact Nat.le_trans (ihp hp) (ihq hq)
  | either p q ihp ihq => exact h.elim ihp ihq
  | repeated p least most ih =>
    obtain ⟨more, -, hcopies⟩ := h
    exact hcopies.le fun _ _ => ih

theorem Spans.le_max (h : p.Spans text i j) : j ≤ max i text.size := by
  induction p generalizing i j with
  | empty => exact Nat.le_trans (Nat.le_of_eq h.symm) (Nat.le_max_left _ _)
  | char set =>
    obtain ⟨hc, rfl⟩ := h
    obtain ⟨c, hc, -⟩ := (Option.any_eq_true _ _).mp hc
    obtain ⟨hi, -⟩ := Array.getElem?_eq_some_iff.mp hc
    exact Nat.le_trans hi (Nat.le_max_right _ _)
  | look l => exact Nat.le_trans (Nat.le_of_eq h.2.symm) (Nat.le_max_left _ _)
  | seq p q ihp ihq =>
    obtain ⟨k, hp, hq⟩ := h
    have hk := ihp hp
    have hj := ihq hq
    omega
  | either p q ihp ihq => exact h.elim ihp ihq
  | repeated p least most ih =>
    obtain ⟨more, -, hcopies⟩ := h
    generalize least + more = n at hcopies
    induction hcopies with
    | none i => exact Nat.le_max_left _ _
    | more first _ ihrest =>
      have hfirst := ih first
      omega

theorem carries_char (text : Array Char) (set : CharSet) :
    Carries ((char set).Spans text) ((char set).ends text) := by
  intro s k
  simp only [ends, Spans, List.mem_filterMap, Option.ite_none_right_eq_some, Option.some.injEq]
  constructor
  · rintro ⟨i, hi, hc, rfl⟩
    exact ⟨i, hi, hc, rfl⟩
  · rintro ⟨i, hi, hc, rfl⟩
    exact ⟨i, hi, hc, rfl⟩

theorem carries_look (text : Array Char) (l : Look) :
    Carries ((look l).Spans text) ((look l).ends text) := by
  intro s k
  simp only [ends, Spans, List.mem_filter]
  constructor
  · rintro ⟨hk, hl⟩
    exact ⟨k, hk, hl, rfl⟩
  · rintro ⟨i, hi, hl, rfl⟩
    exact ⟨hi, hl⟩

theorem carries_repeated (hp : Carries (p.Spans text) (p.ends text)) (least : Nat)
    (most : Option Nat) :
    Carries ((repeated p least most).Spans text) ((repeated p least most).ends text) := by
  intro s k
  have hmore : ∀ j, (∃ m, m ≤ (most.map (· - least)).getD (text.size + 1) ∧
      Copies (p.Spans text) m j k) ↔
      ∃ m, (∀ n ∈ most, m ≤ n - least) ∧ Copies (p.Spans text) m j k := by
    intro j
    cases most with
    | some n => simp
    | none =>
      constructor
      · rintro ⟨m, -, h⟩
        exact ⟨m, by simp, h⟩
      · rintro ⟨m, -, h⟩
        obtain ⟨m', -, hm', h'⟩ := h.shorten fun _ _ => Spans.le
        have hk : k ≤ max j text.size :=
          Spans.le_max (p := repeated p m' (some m')) ⟨0, by simp, h'⟩
        exact ⟨m', by simp only [Option.map_none, Option.getD_none]; omega, h'⟩
  rw [ends, rounds_eq_iterate, rounds_eq_iterate, hp.merge.iterate]
  simp only [hp.iterate least s, copies_or_eq, hmore, Spans, copies_add]
  constructor
  · rintro ⟨j, ⟨i, hi, hleast⟩, m, hm, hrest⟩
    exact ⟨i, hi, m, hm, j, hleast, hrest⟩
  · rintro ⟨i, hi, m, hm, j, hleast, hrest⟩
    exact ⟨j, ⟨i, hi, hleast⟩, m, hm, hrest⟩

/-- The positions computed for a pattern are the ends of its spans. -/
theorem carries_ends (text : Array Char) (p : Pattern) : Carries (p.Spans text) (p.ends text) := by
  induction p with
  | empty =>
    intro s k
    simp [ends, Spans]
  | char set => exact carries_char text set
  | look l => exact carries_look text l
  | seq p q ihp ihq =>
    intro s k
    rw [ends, ihq]
    constructor
    · rintro ⟨j, hj, hq⟩
      obtain ⟨i, hi, hp⟩ := (ihp s j).mp hj
      exact ⟨i, hi, j, hp, hq⟩
    · rintro ⟨i, hi, j, hp, hq⟩
      exact ⟨j, (ihp s j).mpr ⟨i, hi, hp⟩, hq⟩
  | either p q ihp ihq =>
    intro s k
    rw [ends, mem_merge, ihp, ihq, ← exists_or]
    simp only [Spans, and_or_left]
  | repeated p least most ih => exact carries_repeated ih least most

theorem found_iff (p : Pattern) (text : String) :
    p.found text = true ↔
      ∃ i j, i ≤ text.toList.toArray.size ∧ p.Spans text.toList.toArray i j := by
  have hends := carries_ends text.toList.toArray p (List.range (text.toList.toArray.size + 1))
  simp only [found, Bool.not_eq_true', List.isEmpty_eq_false_iff_exists_mem, hends, List.mem_range,
    Nat.lt_succ_iff]
  constructor
  · rintro ⟨j, i, hi, h⟩
    exact ⟨i, j, hi, h⟩
  · rintro ⟨i, j, hi, h⟩
    exact ⟨j, i, hi, h⟩

def SpansAll (p : Pattern) (text : String) : Prop :=
  p.Spans text.toList.toArray 0 text.toList.length

theorem start_holds_iff (hi : i ≤ text.size) :
    Look.start.holds (before text i) text[i]? = true ↔ i = 0 := by
  simp only [Look.holds, before, Option.isNone_iff_eq_none]
  split
  · simp_all
  · next h =>
    have hlt : i - 1 < text.size := by omega
    simp [h, Array.getElem?_eq_getElem hlt]

theorem stop_holds_iff (i : Nat) :
    Look.stop.holds (before text i) text[i]? = true ↔ text.size ≤ i := by
  simp [Look.holds]

def between (p : Pattern) : Pattern := seq (seq (look .start) p) (look .stop)

/-- Between the ends of a text, a pattern is found where it spans all of the text. -/
theorem found_between (p : Pattern) (text : String) :
    (between p).found text = true ↔ p.SpansAll text := by
  rw [found_iff]
  constructor
  · rintro ⟨i, j, hi, k, ⟨i', ⟨hstart, rfl⟩, hp⟩, hstop, rfl⟩
    obtain rfl := (start_holds_iff hi).mp hstart
    have hle := (stop_holds_iff _).mp hstop
    have hge := hp.le_max
    rw [Nat.zero_max] at hge
    have hk : k = text.toList.length := by simpa using Nat.le_antisymm hge hle
    rwa [hk] at hp
  · intro hp
    have hsize : text.toList.toArray.size ≤ text.toList.length := Nat.le_of_eq List.size_toArray
    exact ⟨0, _, Nat.zero_le _, _, ⟨0, ⟨rfl, rfl⟩, hp⟩, (stop_holds_iff _).mpr hsize, rfl⟩

end Testbed.Pattern
