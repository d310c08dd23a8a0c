import Testbed.Name

/-!
What a name that may be reserved looks like.
-/
namespace Testbed

/-- Between 1 and 63 lower case letters, digits and hyphens, with a hyphen at neither end. -/
structure DnsLabel (name : String) : Prop where
  nonempty : 1 ≤ name.toList.length
  short : name.toList.length ≤ 63
  chars : ∀ c ∈ name.toList, ('a' ≤ c ∧ c ≤ 'z') ∨ ('0' ≤ c ∧ c ≤ '9') ∨ c = '-'
  first : name.toList.head? ≠ some '-'
  last : name.toList.getLast? ≠ some '-'

theorem isLower_iff {c : Char} : c.isLower = true ↔ 'a' ≤ c ∧ c ≤ 'z' :=
  Bool.and_eq_true_iff.trans (and_congr decide_eq_true_iff decide_eq_true_iff)

theorem isDigit_iff {c : Char} : c.isDigit = true ↔ '0' ≤ c ∧ c ≤ '9' :=
  Bool.and_eq_true_iff.trans (and_congr decide_eq_true_iff decide_eq_true_iff)

theorem isLabelChar_iff {c : Char} :
    isLabelChar c = true ↔ ('a' ≤ c ∧ c ≤ 'z') ∨ ('0' ≤ c ∧ c ≤ '9') ∨ c = '-' := by
  rw [isLabelChar, Bool.or_eq_true, Bool.or_eq_true, beq_iff_eq, isLower_iff, isDigit_iff, or_assoc]

variable {name : String}

theorem isLabel_iff : isLabel name = true ↔ DnsLabel name := by
  have hpos : 1 ≤ name.toList.length ↔ name.toList ≠ [] := List.length_pos_iff
  simp only [isLabel, Bool.and_eq_true, decide_eq_true_eq, List.all_eq_true, isLabelChar_iff]
  constructor
  · rintro ⟨⟨⟨⟨hshort, hchars⟩, hne⟩, hfirst⟩, hlast⟩
    exact ⟨hpos.mpr hne, hshort, hchars, hfirst, hlast⟩
  · intro h
    exact ⟨⟨⟨⟨h.short, h.chars⟩, hpos.mp h.nonempty⟩, h.first⟩, h.last⟩

instance (name : String) : Decidable (DnsLabel name) := decidable_of_iff _ isLabel_iff

theorem not_mem_of_isLabel {c : Char} (hc : isLabelChar c = false) (h : isLabel name = true) :
    c ∉ name.toList := by
  intro hm
  rw [isLabelChar_iff.mpr ((isLabel_iff.mp h).chars c hm)] at hc
  cases hc

theorem ne_empty_of_isLabel (h : isLabel name = true) : name ≠ "" := by
  rintro rfl
  exact absurd h (by decide)

theorem ne_dot_of_isLabel (h : isLabel name = true) : name ≠ "." := by
  rintro rfl
  exact absurd h (by decide)

end Testbed
