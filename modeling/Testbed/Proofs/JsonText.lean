import Testbed.Json.Reader
import Testbed.Proofs.Tokens

/-!
JSON texts that are read back as the values they were written for. A value can be written if its
strings are texts and its numbers are numerals; the scanners take exactly its text and leave the
rest.
-/
namespace Testbed

/-- A numeral that the grammar of numbers allows: no zero in front of other digits, and at least one
digit in each part that is there. -/
structure Numeral.WellFormed (n : Numeral) : Prop where
  whole : n.whole ≠ [] ∧ ∀ c ∈ n.whole, c.isDigit
  leads : n.whole.head? = some '0' → n.whole = ['0']
  fraction : ∀ c ∈ n.fraction, c.isDigit
  exponent : ∀ e ∈ n.exponent, (∀ c ∈ e.sign, c = '-' ∨ c = '+') ∧ e.digits ≠ [] ∧
    ∀ c ∈ e.digits, c.isDigit

namespace Json

inductive Writable : Json → Prop
  | null : Writable null
  | bool (b : Bool) : Writable (bool b)
  | number {n : Numeral} (h : n.WellFormed) : Writable (number n)
  | string (s : String) : Writable (string (some s))
  | array {items : List Json} (h : ∀ v ∈ items, Writable v) : Writable (array items)
  | object {members : List (Option String × Json)} (hk : ∀ m ∈ members, m.1.isSome)
      (hv : ∀ m ∈ members, Writable m.2) : Writable (object members)

variable {s t rest : List Char} {c : Char} {v : Json}

theorem skip_cons (h : isBlank c = false) (s : List Char) : skip (c :: s) = c :: s :=
  List.dropWhile_cons_of_neg (by simp [h])

theorem hexValue?_hexDigit {n : Nat} (h : n < 16) : hexValue? (Text.hexDigit n) = some n := by
  interval_cases n <;> decide

theorem scanUnits_control (h : c.toNat < 32) (s : List Char) :
    scanUnits ('\\' :: 'u' :: '0' :: '0' :: Text.hexDigit (c.toNat / 16) ::
        Text.hexDigit (c.toNat % 16) :: s) =
      (scanUnits s).map fun p => (.char c :: p.1, p.2) := by
  have hzero : hexValue? '0' = some 0 := by decide
  have hunit : hexUnit? '0' '0' (Text.hexDigit (c.toNat / 16)) (Text.hexDigit (c.toNat % 16)) =
      some c.toNat := by
    simp only [hexUnit?, hzero, hexValue?_hexDigit (n := c.toNat / 16) (by omega),
      hexValue?_hexDigit (Nat.mod_lt c.toNat (by decide)), bind, Option.bind, pure]
    exact congrArg some (by omega)
  have hchar : unitOf c.toNat = .char c := by
    rw [unitOf, if_neg (by omega), Char.ofNat_toNat]
  rw [scanUnits, hunit]
  simp only [bind, Option.bind, hchar]
  cases scanUnits s <;> rfl

theorem scanUnits_escape (c : Char) (s : List Char) :
    scanUnits (escape c ++ s) = (scanUnits s).map fun p => (.char c :: p.1, p.2) := by
  unfold escape
  split
  case h_8 hquote hslash hn hr ht hb hf =>
    split
    · next h => exact scanUnits_control h s
    · next h =>
      rw [List.singleton_append, scanUnits, if_neg h]
      · cases scanUnits s <;> rfl
      all_goals simp_all
  all_goals
    rw [List.cons_append, List.singleton_append, scanUnits]
    · simp only [shortEscape?, bind, Option.bind, pure]
      cases scanUnits s <;> rfl
    · simp

theorem scanUnits_quoted (s rest : List Char) :
    scanUnits (s.flatMap escape ++ '"' :: rest) = some (s.map .char, rest) := by
  induction s with
  | nil => rw [List.flatMap_nil, List.nil_append, scanUnits]; rfl
  | cons c s ih => rw [List.flatMap_cons, List.append_assoc, scanUnits_escape, ih]; rfl

theorem joinUnits_chars (s : List Char) : joinUnits (s.map .char) = some s := by
  induction s with
  | nil => rfl
  | cons c s ih => rw [List.map_cons, joinUnits, ih]; rfl

theorem scanString_quote (s : String) (rest : List Char) :
    ∃ body, quote s ++ rest = '"' :: body ∧ scanString body = some (some s, rest) := by
  refine ⟨s.toList.flatMap escape ++ '"' :: rest, by simp [quote], ?_⟩
  rw [scanString, scanUnits_quoted, Option.map_some, joinUnits_chars, Option.map_some,
    String.ofList_toList]

def EndsNumber (rest : List Char) : Prop :=
  ∀ c ∈ rest.head?, c.isDigit = false ∧ c ≠ '.' ∧ c ≠ 'e' ∧ c ≠ 'E'

theorem whole_begins {n : Numeral} (h : n.WellFormed) : ∃ c w, n.whole = c :: w ∧ c.isDigit := by
  obtain ⟨hne, hdigits⟩ := h.whole
  obtain ⟨c, w, hw⟩ := List.exists_cons_of_ne_nil hne
  exact ⟨c, w, hw, hdigits c (hw ▸ List.mem_cons_self)⟩

theorem scanWhole_append {n : Numeral} (h : n.WellFormed)
    (hr : ∀ c ∈ rest.head?, c.isDigit = false) :
    scanWhole (n.whole ++ rest) = some (n.whole, rest) := by
  obtain ⟨hne, hdigits⟩ := h.whole
  by_cases hzero : n.whole.head? = some '0'
  · rw [h.leads hzero, List.singleton_append, scanWhole, if_neg]
    cases rest with
    | nil => simp
    | cons c rest => simp [hr c rfl]
  · rw [scanWhole.eq_2, Text.takeWhile_stop hdigits hr, Text.dropWhile_stop hdigits hr, if_neg hne]
    -- the digits do not start with a zero
    intro r hr
    obtain ⟨c, w, hw, -⟩ := whole_begins h
    rw [hw, List.cons_append] at hr
    exact hzero (by rw [hw, (List.cons.inj hr).1, List.head?_cons])

def fractionChars (f : List Char) : List Char := if f = [] then [] else '.' :: f

theorem scanFraction_append {n : Numeral} (h : n.WellFormed)
    (hr : ∀ c ∈ rest.head?, c.isDigit = false ∧ c ≠ '.') :
    scanFraction (fractionChars n.fraction ++ rest) = some (n.fraction, rest) := by
  unfold fractionChars
  split
  · next hnone =>
    rw [List.nil_append, hnone, scanFraction.eq_2]
    rintro r rfl
    exact (hr '.' rfl).2 rfl
  · next hsome =>
    have hdigit : ∀ c ∈ rest.head?, c.isDigit = false := fun c hc => (hr c hc).1
    rw [List.cons_append, scanFraction, Text.takeWhile_stop h.fraction hdigit,
      Text.dropWhile_stop h.fraction hdigit, if_neg hsome]

def exponentChars (e : Option Exponent) : List Char :=
  match e with
  | none => []
  | some e => 'e' :: e.sign.toList ++ e.digits

theorem scanExponent_append {n : Numeral} (h : n.WellFormed) (hr : EndsNumber rest) :
    scanExponent (exponentChars n.exponent ++ rest) = some (n.exponent, rest) := by
  cases he : n.exponent with
  | none =>
    cases rest with
    | nil => rfl
    | cons c rest =>
      obtain ⟨-, -, hlower, hupper⟩ := hr c rfl
      rw [exponentChars, List.nil_append]
      unfold scanExponent
      exact if_neg (not_or_intro hlower hupper)
  | some e =>
    obtain ⟨hsign, hne, hdigits⟩ := h.exponent e he
    have hdigit : ∀ c ∈ rest.head?, c.isDigit = false := fun c hc => (hr c hc).1
    have htake := Text.takeWhile_stop hdigits hdigit
    have hdrop := Text.dropWhile_stop hdigits hdigit
    obtain ⟨sign, digits⟩ := e
    unfold scanExponent
    cases sign with
    | some sign =>
      rcases hsign sign rfl with rfl | rfl <;> simp_all [exponentChars]
    | none =>
      obtain ⟨d, r, rfl⟩ := List.exists_cons_of_ne_nil hne
      have hd : d.isDigit := hdigits d List.mem_cons_self
      have hminus : d ≠ '-' := by rintro rfl; simp at hd
      have hplus : d ≠ '+' := by rintro rfl; simp at hd
      simp_all [exponentChars]

theorem head_fraction (f : List Char) (hr : ∀ c ∈ rest.head?, c.isDigit = false) :
    ∀ c ∈ (fractionChars f ++ rest).head?, c.isDigit = false := by
  unfold fractionChars
  split
  · exact hr
  · rintro c ⟨⟩
    rfl

theorem head_exponent (e : Option Exponent) (hr : EndsNumber rest) :
    ∀ c ∈ (exponentChars e ++ rest).head?, c.isDigit = false ∧ c ≠ '.' := by
  cases e with
  | none => exact fun c hc => ⟨(hr c hc).1, (hr c hc).2.1⟩
  | some e =>
    rintro c ⟨⟩
    decide

theorem scanNumber_signed (negative : Bool) (h : s.head? ≠ some '-') :
    scanNumber ((if negative then ['-'] else []) ++ s) =
      (scanWhole s).bind fun w => (scanFraction w.2).bind fun f =>
        (scanExponent f.2).bind fun e => some (⟨negative, w.1, f.1, e.1⟩, e.2) := by
  unfold scanNumber
  cases negative with
  | true => rfl
  | false =>
    rw [if_neg Bool.false_ne_true, List.nil_append]
    split
    next negative t hsign =>
      split at hsign
      · exact absurd List.head?_cons h
      · obtain ⟨rfl, rfl⟩ := Prod.mk.inj hsign
        rfl

theorem scanNumber_append {n : Numeral} (h : n.WellFormed) (hr : EndsNumber rest) :
    scanNumber (n.chars ++ rest) = some (n, rest) := by
  let fraction := fractionChars n.fraction
  let exponent := exponentChars n.exponent
  have hchars : n.chars ++ rest =
      (if n.negative then ['-'] else []) ++ (n.whole ++ (fraction ++ (exponent ++ rest))) := by
    have hparts : n.chars =
      (if n.negative then ['-'] else []) ++ n.whole ++ fraction ++ exponent := rfl
    simp [hparts]
  have hends := head_exponent n.exponent hr
  have hexponent : scanExponent (exponent ++ rest) = some (n.exponent, rest) :=
    scanExponent_append h hr
  have hfraction : scanFraction (fraction ++ (exponent ++ rest)) =
      some (n.fraction, exponent ++ rest) := scanFraction_append h hends
  have hwhole : scanWhole (n.whole ++ (fraction ++ (exponent ++ rest))) =
      some (n.whole, fraction ++ (exponent ++ rest)) :=
    scanWhole_append h (head_fraction n.fraction fun c hc => (hends c hc).1)
  have hminus : (n.whole ++ (fraction ++ (exponent ++ rest))).head? ≠ some '-' := by
    obtain ⟨c, w, hw, hc⟩ := whole_begins h
    rw [hw]
    rintro ⟨⟩
    cases hc
  rw [hchars, scanNumber_signed n.negative hminus, hwhole, Option.bind_some, hfraction,
    Option.bind_some, hexponent, Option.bind_some]

theorem head_digits {n : Nat} (hn : 0 < n) : (Decimal.digits n).head? ≠ some '0' := by
  fun_induction Decimal.digits n with
  | case1 n h => interval_cases n <;> decide
  | case2 n h ih =>
    obtain ⟨c, w, hw⟩ := List.exists_cons_of_ne_nil (Decimal.isDigit_digits (n / 10)).1
    rw [hw] at ih ⊢
    exact ih (by omega)

theorem wellFormed_ofNat (n : Nat) : (Numeral.ofNat n).WellFormed where
  whole := Decimal.isDigit_digits n
  leads h := by
    rcases Nat.eq_zero_or_pos n with rfl | hn
    · simp [Numeral.ofNat, Decimal.digits, Decimal.digitChar]
    · exact absurd h (head_digits hn)
  fraction := fun _ hc => nomatch hc
  exponent := fun _ he => nomatch he

theorem toNat?_ofNat (n : Nat) : (Numeral.ofNat n).toNat? = some n := by
  simp [Numeral.ofNat, Numeral.toNat?, Decimal.ofDigits_digits]

theorem head_number {n : Numeral} (h : n.WellFormed) :
    ∃ c s, n.chars = c :: s ∧ (c = '-' ∨ c.isDigit) := by
  obtain ⟨c, w, hw, hc⟩ := whole_begins h
  unfold Numeral.chars
  cases n.negative with
  | true => exact ⟨'-', _, rfl, .inl rfl⟩
  | false =>
    rw [hw]
    exact ⟨c, _, rfl, .inr hc⟩

theorem not_isBlank_of_number (h : c = '-' ∨ c.isDigit) : isBlank c = false := by
  by_contra hblank
  simp only [isBlank, Bool.not_eq_false, Bool.or_eq_true, beq_iff_eq] at hblank
  rcases hblank with ((rfl | rfl) | rfl) | rfl <;> exact absurd h (by decide)

theorem Writable.begins (h : Writable v) :
    ∃ c s, v.chars = c :: s ∧ isBlank c = false ∧ c ≠ ']' := by
  cases h with
  | null => exact ⟨'n', _, rfl, by decide⟩
  | bool b => cases b with
    | true => exact ⟨'t', _, rfl, by decide⟩
    | false => exact ⟨'f', _, rfl, by decide⟩
  | number h =>
    obtain ⟨c, s, hs, hc⟩ := head_number h
    refine ⟨c, s, hs, not_isBlank_of_number hc, ?_⟩
    rintro rfl
    exact absurd hc (by decide)
  | string s => exact ⟨'"', _, rfl, by decide⟩
  | array h => exact ⟨'[', _, rfl, by decide⟩
  | object hk hv => exact ⟨'\x7b', _, rfl, by decide⟩

def Scanned (v : Json) : Prop :=
  ∀ ⦃fuel : Nat⦄ ⦃rest : List Char⦄, v.chars.length ≤ fuel → EndsNumber rest →
    scanValue fuel (v.chars ++ rest) = some (v, rest)

theorem scanned_number {n : Numeral} (h : n.WellFormed) : Scanned (number n) := by
  intro fuel rest hf hr
  obtain ⟨c, s, hs, hc⟩ := head_number h
  have hchars : (number n).chars = c :: s := hs
  have hscan : scanNumber (c :: (s ++ rest)) = some (n, rest) := by
    rw [← List.cons_append, ← hs, scanNumber_append h hr]
  rw [hchars] at hf
  cases fuel with
  | zero => exact absurd hf (by simp)
  | succ fuel =>
    rw [scanValue, hchars, List.cons_append, skip_cons (not_isBlank_of_number hc)]
    split
    case h_7 =>
      rw [hscan]
      rfl
    all_goals
      next heq =>
      rw [(List.cons.inj heq).1] at hc
      exact absurd hc (by decide)

theorem scanned_string (s : String) : Scanned (string (some s)) := by
  intro fuel rest hf hr
  obtain ⟨body, hbody, hscan⟩ := scanString_quote s rest
  have hchars : (string (some s)).chars ++ rest = '"' :: body := hbody
  cases fuel with
  | zero => exact absurd hf (by simp [chars, quote])
  | succ fuel =>
    rw [scanValue, hchars, skip_cons (c := '"') rfl]
    simp only [hscan, Option.map_some]

theorem scanItems_chars {vs : List Json} (hne : vs ≠ []) (h : ∀ v ∈ vs, Scanned v) {fuel : Nat}
    (hf : (itemChars vs).length < fuel) :
    scanItems fuel (itemChars vs ++ ']' :: rest) = some (vs, rest) := by
  induction vs generalizing fuel with
  | nil => exact absurd rfl hne
  | cons v vs ih =>
    obtain ⟨hv, hvs⟩ := List.forall_mem_cons.1 h
    obtain ⟨fuel, rfl⟩ := Nat.exists_eq_add_one.2 (Nat.zero_lt_of_lt hf)
    cases vs with
    | nil =>
      have hscan : scanValue fuel (v.chars ++ ']' :: rest) = some (v, ']' :: rest) :=
        hv (Nat.le_of_lt_succ hf) (by simp [EndsNumber])
      rw [itemChars, scanItems, hscan]
      rfl
    | cons w vs =>
      let items := itemChars (w :: vs)
      have htext : itemChars (v :: w :: vs) ++ ']' :: rest =
          v.chars ++ ',' :: (items ++ ']' :: rest) := by
        simp [itemChars, items]
      have hlength : (itemChars (v :: w :: vs)).length = v.chars.length + items.length + 1 := by
        simp [itemChars, items]
        omega
      have hscan : scanValue fuel (v.chars ++ ',' :: (items ++ ']' :: rest)) =
          some (v, ',' :: (items ++ ']' :: rest)) :=
        hv (by omega) (by simp [EndsNumber])
      have hitems : scanItems fuel (items ++ ']' :: rest) = some (w :: vs, rest) :=
        ih (List.cons_ne_nil w vs) hvs (by simp only [items] at hlength; omega)
      rw [htext, scanItems, hscan]
      simp only [bind, Option.bind, skip_cons (c := ',') rfl, hitems, pure]

theorem scanMembers_member (name : String) (hv : Scanned v) {fuel : Nat}
    (hf : v.chars.length ≤ fuel) (hr : EndsNumber rest) :
    scanMembers (fuel + 1) (quote name ++ ':' :: v.chars ++ rest) =
      match skip rest with
      | ',' :: r => (scanMembers fuel r).map fun p => ((some name, v) :: p.1, p.2)
      | '\x7d' :: r => some ([(some name, v)], r)
      | _ => none := by
  obtain ⟨body, hbody, hname⟩ := scanString_quote name (':' :: (v.chars ++ rest))
  have htext : quote name ++ ':' :: v.chars ++ rest = '"' :: body := by simp [← hbody]
  have hvalue : scanValue fuel (v.chars ++ rest) = some (v, rest) := hv hf hr
  rw [htext, scanMembers, skip_cons (c := '"') rfl]
  simp only [bind, Option.bind, hname, skip_cons (c := ':') rfl, hvalue, pure]
  generalize skip rest = after
  split
  · next r =>
    change _ = (scanMembers fuel r).map fun p => ((some name, v) :: p.1, p.2)
    cases scanMembers fuel r <;> rfl
  · rfl
  · next hcomma hbrace => simp

theorem scanMembers_chars {ms : List (Option String × Json)} (hne : ms ≠ [])
    (hk : ∀ m ∈ ms, m.1.isSome) (h : ∀ m ∈ ms, Scanned m.2) {fuel : Nat}
    (hf : (memberChars ms).length ≤ fuel) :
    scanMembers fuel (memberChars ms ++ '\x7d' :: rest) = some (ms, rest) := by
  induction ms generalizing fuel with
  | nil => exact absurd rfl hne
  | cons m ms ih =>
    obtain ⟨k, v⟩ := m
    obtain ⟨hv, hvs⟩ := List.forall_mem_cons.1 h
    obtain ⟨hname, hnames⟩ := List.forall_mem_cons.1 hk
    simp only at hv hname
    obtain ⟨name, rfl⟩ := Option.isSome_iff_exists.1 hname
    cases ms with
    | nil =>
      have hlength : (memberChars [(some name, v)]).length =
          (quote name).length + v.chars.length + 1 := by
        simp [memberChars]
        omega
      obtain ⟨fuel, rfl⟩ := Nat.exists_eq_add_one.2 (show 0 < fuel by omega)
      have hend : EndsNumber ('\x7d' :: rest) := by simp [EndsNumber]
      rw [memberChars, Option.getD_some, scanMembers_member name hv (by omega) hend,
        skip_cons (c := '\x7d') rfl]
      rfl
    | cons w ms =>
      let members := memberChars (w :: ms)
      have htext : memberChars ((some name, v) :: w :: ms) ++ '\x7d' :: rest =
          quote name ++ ':' :: v.chars ++ ',' :: (members ++ '\x7d' :: rest) := by
        simp [memberChars, members]
      have hlength : (memberChars ((some name, v) :: w :: ms)).length =
          (quote name).length + v.chars.length + members.length + 2 := by
        simp [memberChars, members]
        omega
      obtain ⟨fuel, rfl⟩ := Nat.exists_eq_add_one.2 (show 0 < fuel by omega)
      have hcontinue : EndsNumber (',' :: (members ++ '\x7d' :: rest)) := by simp [EndsNumber]
      have hmembers : scanMembers fuel (members ++ '\x7d' :: rest) = some (w :: ms, rest) :=
        ih (List.cons_ne_nil w ms) hnames hvs (by simp only [members] at hlength; omega)
      rw [htext, scanMembers_member name hv (by omega) hcontinue,
        skip_cons (c := ',') rfl]
      simp only [hmembers, Option.map_some]

theorem scanned_array {items : List Json} (hw : ∀ v ∈ items, Writable v)
    (h : ∀ v ∈ items, Scanned v) : Scanned (array items) := by
  intro fuel rest hf hr
  have htext : (array items).chars ++ rest = '[' :: (itemChars items ++ ']' :: rest) := by
    simp [chars]
  have hlength : (array items).chars.length = (itemChars items).length + 2 := by simp [chars]
  obtain ⟨fuel, rfl⟩ := Nat.exists_eq_add_one.2 (show 0 < fuel by omega)
  rw [scanValue, htext, skip_cons (c := '[') rfl]
  cases items with
  | nil => rfl
  | cons v vs =>
    -- The first item cannot be taken for the end of the list.
    obtain ⟨c, s, hs, hblank, hclose⟩ := (hw v List.mem_cons_self).begins
    obtain ⟨t, ht⟩ : ∃ t, itemChars (v :: vs) ++ ']' :: rest = c :: t := by
      cases vs <;> simp [itemChars, hs]
    have hitems : scanItems fuel (itemChars (v :: vs) ++ ']' :: rest) = some (v :: vs, rest) :=
      scanItems_chars (List.cons_ne_nil v vs) h (by omega)
    rw [ht] at hitems ⊢
    simp only [skip_cons hblank]
    split
    · next heq => exact absurd (List.cons.inj heq).1 hclose
    · rw [hitems]
      rfl

theorem scanned_object {members : List (Option String × Json)} (hk : ∀ m ∈ members, m.1.isSome)
    (h : ∀ m ∈ members, Scanned m.2) : Scanned (object members) := by
  intro fuel rest hf hr
  have htext : (object members).chars ++ rest =
      '\x7b' :: (memberChars members ++ '\x7d' :: rest) := by
    simp [chars]
  have hlength : (object members).chars.length = (memberChars members).length + 2 := by
    simp [chars]
  obtain ⟨fuel, rfl⟩ := Nat.exists_eq_add_one.2 (show 0 < fuel by omega)
  rw [scanValue, htext, skip_cons (c := '\x7b') rfl]
  cases members with
  | nil => rfl
  | cons m ms =>
    obtain ⟨t, ht⟩ : ∃ t, memberChars (m :: ms) ++ '\x7d' :: rest = '"' :: t := by
      cases ms <;> simp [memberChars, quote]
    have hmembers : scanMembers fuel (memberChars (m :: ms) ++ '\x7d' :: rest) =
        some (m :: ms, rest) :=
      scanMembers_chars (List.cons_ne_nil m ms) hk h (by omega)
    rw [ht] at hmembers ⊢
    simp only [skip_cons (c := '"') rfl]
    change (scanMembers fuel ('"' :: t)).map (fun p => (object p.1, p.2)) = _
    rw [hmembers]
    rfl

theorem Writable.scanned (h : Writable v) : Scanned v := by
  induction h with
  | null =>
    rintro (_ | fuel) rest hf -
    · exact absurd hf (by decide)
    · rfl
  | bool b =>
    rintro (_ | fuel) rest hf -
    · cases b <;> exact absurd hf (by decide)
    · cases b <;> rfl
  | number h => exact scanned_number h
  | string s => exact scanned_string s
  | array hw ih => exact scanned_array hw ih
  | object hk hv ih => exact scanned_object hk ih

/-- What is written is read back. -/
theorem Writable.read_render (h : Writable v) : read v.render = some v := by
  have hscan : scanValue (v.chars.length + 1) (v.chars ++ []) = some (v, []) :=
    h.scanned (Nat.le_succ _) (by simp [EndsNumber])
  rw [List.append_nil] at hscan
  rw [read, render, String.toList_ofList, hscan]
  rfl

end Json

end Testbed
