import Testbed.Proofs.Descriptions
import Testbed.Proofs.Labels

/-!
Launches that a manifest can be made of: the names of their ports, their user and their volumes are
well written, each for itself.
-/
namespace Testbed.Kind

/-- Between 1 and 15 lower case letters, digits and hyphens, with at least one letter, and with a
hyphen at neither end nor next to another. -/
structure PortName (name : String) : Prop where
  nonempty : 1 ≤ name.toList.length
  short : name.toList.length ≤ 15
  chars : ∀ c ∈ name.toList, ('a' ≤ c ∧ c ≤ 'z') ∨ ('0' ≤ c ∧ c ≤ '9') ∨ c = '-'
  letter : ∃ c ∈ name.toList, 'a' ≤ c ∧ c ≤ 'z'
  first : name.toList.head? ≠ some '-'
  last : name.toList.getLast? ≠ some '-'
  single : ¬['-', '-'] <:+: name.toList

structure Renderable (l : Launch) : Prop where
  portNames : ∀ name ∈ l.ports.keys, PortName name
  user : ∀ text ∈ l.options.user, ∃ u, UserText text.toList u
  volumes : ∀ text ∈ l.options.volumes, ∃ fields, Text.Pieces ':' text.toList fields ∧
    (fields.length = 2 ∨ fields.length = 3)

variable {name runnable text : String} {names volumes : List String} {l : Launch}

theorem contains_zip_tail (c d : Char) (s : List Char) :
    (s.zip s.tail).contains (c, d) = true ↔ [c, d] <:+: s := by
  induction s with
  | nil => simp
  | cons x s ih =>
    cases s with
    | nil => simp [List.infix_cons_iff]
    | cons y s =>
      rw [List.tail_cons] at ih
      have hcons : [c, d] <:+: x :: y :: s ↔ [c, d] <+: x :: y :: s ∨ [c, d] <:+: y :: s :=
        List.infix_cons_iff
      rw [List.tail_cons, List.zip_cons_cons, List.contains_cons, Bool.or_eq_true, ih, hcons]
      simp

theorem isPortName_iff : isPortName name = true ↔ PortName name := by
  have hpos : 1 ≤ name.toList.length ↔ name.toList ≠ [] := List.length_pos_iff
  have hchars : (name.toList.all fun c => c.isLower || c.isDigit || c == '-') = true ↔
      ∀ c ∈ name.toList, ('a' ≤ c ∧ c ≤ 'z') ∨ ('0' ≤ c ∧ c ≤ '9') ∨ c = '-' :=
    List.all_eq_true.trans (forall₂_congr fun _ _ => isLabelChar_iff)
  have hletter : name.toList.any Char.isLower = true ↔
      ∃ c ∈ name.toList, 'a' ≤ c ∧ c ≤ 'z' := by
    simp only [List.any_eq_true, isLower_iff]
  simp only [isPortName, Bool.and_eq_true, decide_eq_true_eq, hchars, hletter, Bool.not_eq_true',
    ← Bool.not_eq_true, contains_zip_tail]
  constructor
  · rintro ⟨⟨⟨⟨⟨⟨hne, hshort⟩, hchars⟩, hletter⟩, hfirst⟩, hlast⟩, hsingle⟩
    exact ⟨hpos.2 hne, hshort, hchars, hletter, hfirst, hlast, hsingle⟩
  · intro h
    exact ⟨⟨⟨⟨⟨⟨hpos.1 h.nonempty, h.short⟩, h.chars⟩, h.letter⟩, h.first⟩, h.last⟩, h.single⟩

theorem checkPortNames_eq_ok :
    checkPortNames runnable names = .ok () ↔ ∀ name ∈ names, PortName name := by
  induction names with
  | nil => simp [checkPortNames]
  | cons name names ih =>
    rw [checkPortNames, List.forall_mem_cons, ← ih, ← isPortName_iff]
    by_cases h : isPortName name = true <;> simp [h]

theorem exists_volumeText_iff {text : List Char} : (∃ spec, VolumeText text spec) ↔
    ∃ fields, Text.Pieces ':' text fields ∧ (fields.length = 2 ∨ fields.length = 3) := by
  constructor
  · rintro ⟨spec, h⟩
    cases h with
    | plain h => exact ⟨_, h, .inl rfl⟩
    | withModes h _ => exact ⟨_, h, .inr rfl⟩
  · rintro ⟨fields, h, htwo | hthree⟩
    · obtain ⟨host, path, rfl⟩ := List.length_eq_two.1 htwo
      exact ⟨_, .plain h⟩
    · obtain ⟨host, path, modes, rfl⟩ := List.length_eq_three.1 hthree
      exact ⟨_, .withModes h (Text.pieces_cut ',' modes)⟩

theorem exists_forall₂_iff {α β : Type} {R : α → β → Prop} {as : List α} :
    (∃ bs, List.Forall₂ R as bs) ↔ ∀ a ∈ as, ∃ b, R a b := by
  induction as with
  | nil => simp
  | cons a as ih =>
    rw [List.forall_mem_cons, ← ih]
    constructor
    · intro ⟨_, h⟩
      cases h with
      | cons hab has => exact ⟨⟨_, hab⟩, _, has⟩
    · rintro ⟨⟨b, hab⟩, bs, has⟩
      exact ⟨b :: bs, .cons hab has⟩

theorem exists_userText_iff {user : Option String} :
    (∃ u : Option User, List.Forall₂ (fun text => UserText text.toList) user.toList u.toList) ↔
      ∀ text ∈ user, ∃ u, UserText text.toList u := by
  cases user with
  | none => exact iff_of_true ⟨none, .nil⟩ (by simp)
  | some text =>
    simp only [Option.mem_def, Option.some.injEq, forall_eq']
    constructor
    · rintro ⟨_ | u, h⟩
      · cases h
      · cases h with
        | cons hu _ => exact ⟨u, hu⟩
    · rintro ⟨u, hu⟩
      exact ⟨some u, .cons hu .nil⟩

theorem ofLaunch_iff_renderable : (∃ m, Manifest.ofLaunch l = .ok m) ↔ Renderable l := by
  simp only [Manifest.ofLaunch_eq_ok, checkPortNames_eq_ok]
  constructor
  · rintro ⟨m, hports, specs, user, hvolumes, huser, -⟩
    refine ⟨hports, exists_userText_iff.1 ⟨user, huser⟩, fun text htext => ?_⟩
    exact exists_volumeText_iff.1 (exists_forall₂_iff.1 ⟨specs, hvolumes⟩ text htext)
  · intro h
    obtain ⟨user, huser⟩ := exists_userText_iff.2 h.user
    obtain ⟨specs, hvolumes⟩ := exists_forall₂_iff.2 fun text htext =>
      exists_volumeText_iff.2 (h.volumes text htext)
    exact ⟨_, h.portNames, specs, user, hvolumes, huser, rfl⟩

end Testbed.Kind
