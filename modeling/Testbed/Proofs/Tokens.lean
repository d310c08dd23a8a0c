import Mathlib.Data.List.TakeWhile
import Mathlib.Tactic.IntervalCases
import Testbed.Decimal.Read
import Testbed.Text.Blank

/-!
Lines and numerals that are read back as they were written.
-/
namespace Testbed

namespace Text

theorem cut_append {stop : Char} {p : List Char} (h : stop ∉ p) (rest : List Char) :
    cut stop (p ++ stop :: rest) = p :: cut stop rest := by
  induction p with
  | nil => rw [List.nil_append, cut, if_pos rfl]
  | cons c p ih =>
    have hc : c ≠ stop := fun heq => h (heq ▸ List.mem_cons_self)
    rw [List.cons_append, cut, if_neg hc, ih fun hp => h (List.mem_cons_of_mem c hp)]

theorem cut_flatMap {stop : Char} {ls : List (List Char)} (h : ∀ l ∈ ls, stop ∉ l) :
    cut stop (ls.flatMap (· ++ [stop])) = ls ++ [[]] := by
  induction ls with
  | nil => rfl
  | cons l ls ih =>
    obtain ⟨hl, hls⟩ := List.forall_mem_cons.1 h
    rw [List.flatMap_cons, List.append_assoc, List.singleton_append, cut_append hl, ih hls]
    rfl

theorem lines_flatMap {ls : List (List Char)} (h : ∀ l ∈ ls, '\n' ∉ l)
    (hr : ∀ l ∈ ls, l.getLast? ≠ some '\r') : lines (ls.flatMap (· ++ ['\n'])) = ls := by
  have hdrop : ls.map dropReturn = ls := by
    have heq : ls.map dropReturn = ls.map id :=
      List.map_congr_left fun l hl => if_neg (hr l hl)
    rw [heq, List.map_id]
  rw [lines, cut_flatMap h]
  simp [hdrop]

theorem dropWhile_of_head? {α : Type} {p : α → Bool} {s : List α} (h : ∀ c ∈ s.head?, p c = false) :
    s.dropWhile p = s := by
  cases s with
  | nil => rfl
  | cons c s => exact List.dropWhile_cons_of_neg (by simp [h c rfl])

theorem takeWhile_stop {p : Char → Bool} {s rest : List Char} (hs : ∀ c ∈ s, p c)
    (hr : ∀ c ∈ rest.head?, p c = false) : (s ++ rest).takeWhile p = s := by
  cases rest with
  | nil => rw [List.append_nil, List.takeWhile_eq_self_iff.2 hs]
  | cons c r => rw [List.takeWhile_append_of_pos hs, List.takeWhile_cons, hr c rfl]; simp

theorem dropWhile_stop {p : Char → Bool} {s rest : List Char} (hs : ∀ c ∈ s, p c)
    (hr : ∀ c ∈ rest.head?, p c = false) : (s ++ rest).dropWhile p = rest := by
  rw [List.dropWhile_append_of_pos hs, dropWhile_of_head? hr]

theorem trimRight_eq_self {s : List Char} (h : ∀ c ∈ s.getLast?, isBlank c = false) :
    trimRight s = s := by
  rw [trimRight, dropWhile_of_head? (by rwa [List.head?_reverse]), List.reverse_reverse]

theorem trimRight_concat {s : List Char} {c : Char} (h : isBlank c) :
    trimRight (s ++ [c]) = trimRight s := by
  simp [trimRight, h]

theorem trim_eq_self {s : List Char} (hl : ∀ c ∈ s.head?, isBlank c = false)
    (hr : ∀ c ∈ s.getLast?, isBlank c = false) : trim s = s := by
  rw [trim, trimLeft, dropWhile_of_head? hl, trimRight_eq_self hr]

theorem trim_ends (s : List Char) : ∀ c ∈ (trim s).getLast?, isBlank c = false := by
  intro c hc
  rw [trim, trimRight, List.getLast?_reverse] at hc
  have hstop := List.head?_dropWhile_not isBlank (trimLeft s).reverse
  rwa [hc] at hstop

theorem trimRight_prefix (s : List Char) : trimRight s <+: s := by
  rw [trimRight, ← List.reverse_suffix, List.reverse_reverse]
  exact List.dropWhile_suffix isBlank

theorem trim_begins (s : List Char) : ∀ c ∈ (trim s).head?, isBlank c = false := by
  intro c hc
  obtain ⟨t, ht⟩ := trimRight_prefix (trimLeft s)
  have hstop := List.head?_dropWhile_not isBlank s
  rw [← trimLeft, ← ht, ← trim, List.head?_append, Option.mem_def.1 hc] at hstop
  exact hstop

theorem trim_trim (s : List Char) : trim (trim s) = trim s :=
  trim_eq_self (trim_begins s) (trim_ends s)

end Text

namespace Decimal

def isMark (c : Char) : Bool := c.isAlphanum || c == '+' || c == '-' || c == '.'

theorem isAlpha_of_toLower {c : Char} (h : c.toLower.isAlpha) : c.isAlpha := by
  by_cases hc : c.val ≥ 'A'.val ∧ c.val ≤ 'Z'.val
  · have hupper : c.isUpper := decide_eq_true hc
    exact Bool.or_eq_true_iff.2 (.inl hupper)
  · have hsame : c.toLower = c := dif_neg hc
    rwa [hsame] at h

theorem isMark_of_isDigit {c : Char} (h : c.isDigit) : isMark c := by
  simp [isMark, Char.isAlphanum, h]

theorem splitSign_spec (s : List Char) : ∃ sign, s = sign ++ (splitSign s).2 ∧
    ((sign = [] ∨ sign = ['+']) ∧ (splitSign s).1 = false ∨
      sign = ['-'] ∧ (splitSign s).1 = true) := by
  unfold splitSign
  split
  · exact ⟨['-'], rfl, .inr ⟨rfl, rfl⟩⟩
  · exact ⟨['+'], rfl, .inl ⟨.inr rfl, rfl⟩⟩
  · exact ⟨[], rfl, .inl ⟨.inl rfl, rfl⟩⟩

theorem isMark_of_sign {sign : List Char} {p q : Prop}
    (h : (sign = [] ∨ sign = ['+']) ∧ p ∨ sign = ['-'] ∧ q) : ∀ c ∈ sign, isMark c := by
  rcases h with ⟨rfl | rfl, -⟩ | ⟨rfl, -⟩
  · exact fun c hc => nomatch hc
  · exact List.forall_mem_singleton.2 rfl
  · exact List.forall_mem_singleton.2 rfl

theorem isMark_of_splitSign {s : List Char} (h : ∀ c ∈ (splitSign s).2, isMark c) :
    ∀ c ∈ s, isMark c := by
  obtain ⟨sign, hs, hsign⟩ := splitSign_spec s
  rw [hs]
  exact fun c hc => (List.mem_append.1 hc).elim (isMark_of_sign hsign c) (h c)

theorem isMark_of_readDigits {s : List Char} {n : Nat} (h : readDigits s = some n) :
    ∀ c ∈ s, isMark c := by
  rw [readDigits] at h
  split at h
  · next hs => exact fun c hc => isMark_of_isDigit (List.all_eq_true.1 hs.2 c hc)
  · cases h

theorem isMark_of_readExponent {s : List Char} {e : Int} (h : readExponent s = some e) :
    ∀ c ∈ s, isMark c := by
  cases s with
  | nil => simp
  | cons c r =>
    rw [readExponent] at h
    split at h
    · next hc =>
      have hn : (readDigits (splitSign r).2).isSome := by
        by_contra hnone
        simp [Option.not_isSome_iff_eq_none.1 hnone] at h
      obtain ⟨n, hn⟩ := Option.isSome_iff_exists.1 hn
      refine List.forall_mem_cons.2 ⟨?_, isMark_of_splitSign (isMark_of_readDigits hn)⟩
      rcases hc with rfl | rfl <;> decide
    · cases h

theorem isMark_of_readPositional {s : List Char} {x : Float} (h : readPositional s = some x) :
    s ≠ [] ∧ ∀ c ∈ s, isMark c := by
  have hne : s ≠ [] := by
    rintro rfl
    simp [readPositional] at h
  have hwhole : ∀ c ∈ s.takeWhile Char.isDigit, isMark c := fun c hc =>
    isMark_of_isDigit (List.mem_takeWhile_imp hc)
  -- After the whole digits stands a point with a fraction, or an exponent, or nothing.
  have hafter : ∀ c ∈ s.dropWhile Char.isDigit, isMark c := by
    cases hs : s.dropWhile Char.isDigit with
    | nil => simp
    | cons d r =>
      by_cases hd : d = '.'
      · subst hd
        have he : (readExponent (r.dropWhile Char.isDigit)).isSome := by
          by_contra hnone
          simp [readPositional, hs, Option.not_isSome_iff_eq_none.1 hnone] at h
        obtain ⟨e, he⟩ := Option.isSome_iff_exists.1 he
        refine List.forall_mem_cons.2 ⟨rfl, fun c hc => ?_⟩
        rw [← List.takeWhile_append_dropWhile (p := Char.isDigit) (l := r)] at hc
        rcases List.mem_append.1 hc with hc | hc
        · exact isMark_of_isDigit (List.mem_takeWhile_imp hc)
        · exact isMark_of_readExponent he c hc
      · have he : (readExponent (d :: r)).isSome := by
          by_contra hnone
          simp [readPositional, hs, hd, Option.not_isSome_iff_eq_none.1 hnone] at h
        obtain ⟨e, he⟩ := Option.isSome_iff_exists.1 he
        exact isMark_of_readExponent he
  refine ⟨hne, fun c hc => ?_⟩
  rw [← List.takeWhile_append_dropWhile (p := Char.isDigit) (l := s)] at hc
  exact (List.mem_append.1 hc).elim (hwhole c) (hafter c)

theorem isMark_of_lower {s word : List Char} (h : s.map Char.toLower = word)
    (hne : word ≠ []) (hw : word.all Char.isAlpha) : s ≠ [] ∧ ∀ c ∈ s, isMark c := by
  subst h
  refine ⟨fun hs => hne (by rw [hs]; rfl), fun c hc => ?_⟩
  have halpha : c.isAlpha := isAlpha_of_toLower (List.all_eq_true.1 hw _ (List.mem_map_of_mem hc))
  simp [isMark, Char.isAlphanum, halpha]

theorem isMark_of_readUnsignedFloat {s : List Char} {x : Float}
    (h : readUnsignedFloat s = some x) : s ≠ [] ∧ ∀ c ∈ s, isMark c := by
  rw [readUnsignedFloat] at h
  split at h
  · next hw =>
    rcases hw with hw | hw
    · exact isMark_of_lower hw (by decide) (by decide)
    · exact isMark_of_lower hw (by decide) (by decide)
  · split at h
    · next hw => exact isMark_of_lower hw (by decide) (by decide)
    · exact isMark_of_readPositional h

theorem isMark_of_readFloat {s : List Char} {x : Float} (h : readFloat s = some x) :
    s ≠ [] ∧ ∀ c ∈ s, isMark c := by
  obtain ⟨y, hy, -⟩ := Option.map_eq_some_iff.1 h
  obtain ⟨hne, hmarks⟩ := isMark_of_readUnsignedFloat hy
  exact ⟨fun hs => hne (by rw [hs]), isMark_of_splitSign hmarks⟩

theorem toNat_of_isMark {c : Char} (h : isMark c) : 43 ≤ c.toNat ∧ c.toNat ≤ 122 := by
  have hrange : ∀ low high : UInt32, c.val ≥ low ∧ c.val ≤ high →
      low.toNat ≤ c.toNat ∧ c.toNat ≤ high.toNat := fun low high hc =>
    hc.imp UInt32.le_iff_toNat_le.1 UInt32.le_iff_toNat_le.1
  have hdigit : c.isDigit → 48 ≤ c.toNat ∧ c.toNat ≤ 57 := fun hc =>
    hrange '0'.val '9'.val ((Bool.and_eq_true_iff.1 hc).imp of_decide_eq_true of_decide_eq_true)
  have hupper : c.isUpper → 65 ≤ c.toNat ∧ c.toNat ≤ 90 := fun hc =>
    hrange 'A'.val 'Z'.val (of_decide_eq_true hc)
  have hlower : c.isLower → 97 ≤ c.toNat ∧ c.toNat ≤ 122 := fun hc =>
    hrange 'a'.val 'z'.val ((Bool.and_eq_true_iff.1 hc).imp of_decide_eq_true of_decide_eq_true)
  simp only [isMark, Bool.or_eq_true, beq_iff_eq] at h
  rcases h with ((h | rfl) | rfl) | rfl
  · rcases Bool.or_eq_true_iff.1 h with h | h
    · rcases Bool.or_eq_true_iff.1 h with h | h
      · have hc := hupper h
        omega
      · have hc := hlower h
        omega
    · have hc := hdigit h
      omega
  all_goals decide

theorem not_isBlank_of_isMark {c : Char} (h : isMark c) : Text.isBlank c = false := by
  obtain ⟨hlow, hhigh⟩ := toNat_of_isMark h
  have hspace : c ≠ ' ' := fun heq => by simp [heq] at hlow
  simp [Text.isBlank, hspace]
  omega

theorem digitChar_spec {n : Nat} (h : n < 10) :
    (digitChar n).isDigit ∧ (digitChar n).toNat - 48 = n := by
  interval_cases n <;> decide

theorem ofDigits_concat (s : List Char) (c : Char) :
    ofDigits (s ++ [c]) = 10 * ofDigits s + (c.toNat - 48) := by
  simp [ofDigits]

theorem isDigit_digits (n : Nat) : digits n ≠ [] ∧ ∀ c ∈ digits n, c.isDigit := by
  fun_induction digits n with
  | case1 n h => simpa using (digitChar_spec h).1
  | case2 n h ih =>
    refine ⟨by simp, fun c hc => ?_⟩
    rcases List.mem_append.1 hc with hc | hc
    · exact ih.2 c hc
    · rw [List.mem_singleton.1 hc]
      exact (digitChar_spec (Nat.mod_lt n (by decide))).1

theorem ofDigits_digits (n : Nat) : ofDigits (digits n) = n := by
  fun_induction digits n with
  | case1 n h =>
    have hnil : ofDigits [] = 0 := rfl
    rw [← List.nil_append [digitChar n], ofDigits_concat, (digitChar_spec h).2, hnil]
    omega
  | case2 n h ih =>
    rw [ofDigits_concat, ih, (digitChar_spec (Nat.mod_lt n (by decide))).2]
    omega

structure IsInt64 (s : List Char) (t : Int) : Prop where
  signed : ∃ sign digits, s = sign ++ digits ∧ digits ≠ [] ∧ (∀ c ∈ digits, c.isDigit) ∧
    ((sign = [] ∨ sign = ['+']) ∧ t = ofDigits digits ∨ sign = ['-'] ∧ t = -ofDigits digits)
  fits : inInt64 t

section Int64

variable {s rest : List Char} {t : Int}

theorem isInt64_textInt (h : inInt64 t) : IsInt64 (textInt t).toList t := by
  obtain ⟨hne, hdigits⟩ := isDigit_digits t.natAbs
  have hvalue := ofDigits_digits t.natAbs
  refine ⟨?_, h⟩
  by_cases ht : t < 0
  · refine ⟨['-'], digits t.natAbs, by simp [textInt, text, ht], hne, hdigits, .inr ⟨rfl, ?_⟩⟩
    omega
  · refine ⟨[], digits t.natAbs, by simp [textInt, text, ht], hne, hdigits, .inl ⟨.inl rfl, ?_⟩⟩
    omega

theorem IsInt64.ne_nil (h : IsInt64 s t) : s ≠ [] := by
  obtain ⟨⟨sign, digits, rfl, hne, -⟩, -⟩ := h
  simp [hne]

theorem IsInt64.solid (h : IsInt64 s t) : ∀ c ∈ s, Text.isBlank c = false := by
  obtain ⟨⟨sign, digits, rfl, -, hdigits, hsign⟩, -⟩ := h
  intro c hc
  rcases List.mem_append.1 hc with hc | hc
  · exact not_isBlank_of_isMark (isMark_of_sign hsign c hc)
  · exact not_isBlank_of_isMark (isMark_of_isDigit (hdigits c hc))

theorem splitSign_of_digits {digits : List Char} (hne : digits ≠ [])
    (hd : ∀ c ∈ digits, c.isDigit) : splitSign (digits ++ rest) = (false, digits ++ rest) := by
  obtain ⟨c, r, rfl⟩ := List.exists_cons_of_ne_nil hne
  have hc := hd c List.mem_cons_self
  rw [List.cons_append]
  unfold splitSign
  split
  · next h => simp_all
  · next h => simp_all
  · rfl

theorem scanInt64_append (h : IsInt64 s t) (hr : ∀ c ∈ rest.head?, c.isDigit = false) :
    scanInt64 (s ++ rest) = some (t, rest) := by
  obtain ⟨⟨sign, digits, rfl, hne, hdigits, hsign⟩, hfits⟩ := h
  have htake : (digits ++ rest).takeWhile Char.isDigit = digits := Text.takeWhile_stop hdigits hr
  have hdrop : (digits ++ rest).dropWhile Char.isDigit = rest := Text.dropWhile_stop hdigits hr
  have hplain : splitSign (digits ++ rest) = (false, digits ++ rest) :=
    splitSign_of_digits hne hdigits
  rcases hsign with ⟨rfl | rfl, rfl⟩ | ⟨rfl, rfl⟩
  · simp [scanInt64, hplain, htake, hdrop, hne, hfits]
  · simp [scanInt64, splitSign, htake, hdrop, hne, hfits]
  · simp [scanInt64, splitSign, htake, hdrop, hne, hfits]

theorem isInt64_of_scanInt64 (h : scanInt64 s = some (t, rest)) :
    ∃ numeral, s = numeral ++ rest ∧ IsInt64 numeral t := by
  obtain ⟨sign, hs, hsign⟩ := splitSign_spec s
  let body := (splitSign s).2
  let digits := body.takeWhile Char.isDigit
  let value : Int := if (splitSign s).1 then -(ofDigits digits : Int) else ofDigits digits
  have hscan : scanInt64 s = if digits ≠ [] ∧ inInt64 value then
      some (value, body.dropWhile Char.isDigit) else none := rfl
  rw [hscan] at h
  split at h
  · next hd =>
    obtain ⟨rfl, rfl⟩ := Prod.mk.inj (Option.some.inj h)
    refine ⟨sign ++ digits, ?_, ⟨sign, digits, rfl, hd.1, fun c => List.mem_takeWhile_imp, ?_⟩, hd.2⟩
    · rw [List.append_assoc, List.takeWhile_append_dropWhile, ← hs]
    · rcases hsign with ⟨hsign, hpositive⟩ | ⟨hsign, hnegative⟩
      · exact .inl ⟨hsign, by simp [value, hpositive]⟩
      · exact .inr ⟨hsign, by simp [value, hnegative]⟩
  · cases h

end Int64

end Decimal

end Testbed
