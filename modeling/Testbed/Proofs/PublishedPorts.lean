import Testbed.Docker.Output
import Testbed.Proofs.Descriptions
import Testbed.Proofs.Faithful
import Testbed.Proofs.Outline

/-!
Listings of a published port. A listing is accepted exactly if it has a line and all of its lines
are an address and the same port, so that it makes no difference in what order the lines stand, how
often one occurs and which addresses they name.
-/
namespace Testbed.Docker

/-- A line that gives a port: an address and, after the last colon, a numeral. -/
structure Publishes (line : List Char) (p : Nat) : Prop where
  written : ∃ address numeral, line = address ++ ':' :: numeral ∧ ':' ∉ numeral ∧ address ≠ [] ∧
    Decimal.IsUpTo 65535 numeral p
  assigned : p ≠ 0

inductive SamePort : List Char → List Char → Prop
  | same (line : List Char) : SamePort line line
  | moved {address address' numeral : List Char} (h : address ≠ []) (h' : address' ≠ [])
      (hn : ':' ∉ numeral) : SamePort (address ++ ':' :: numeral) (address' ++ ':' :: numeral)

/-- Listings that agree but for the order, the repetition and the addresses of their lines. -/
structure SameListing (output output' : String) : Prop where
  kept : ∀ line ∈ outputLines output, ∃ line' ∈ outputLines output', SamePort line line'
  given : ∀ line' ∈ outputLines output', ∃ line ∈ outputLines output, SamePort line line'

variable {line line' address numeral s : List Char} {lines lines' : List (List Char)} {p q : Nat}
  {command output output' : String}

theorem splitLast_append {stop : Char} {after : List Char} (h : stop ∉ after)
    (before : List Char) :
    splitLast stop (before ++ stop :: after) = some (before, after) := by
  have hreverse : (before ++ stop :: after).reverse = after.reverse ++ stop :: before.reverse := by
    simp
  have hafter := Text.all_ne (mt List.mem_reverse.1 h)
  have hstop : ∀ c ∈ (stop :: before.reverse).head?, decide (c ≠ stop) = false := by simp
  rw [splitLast, hreverse, Text.takeWhile_stop hafter hstop, Text.dropWhile_stop hafter hstop]
  simp

theorem eq_of_last {stop : Char} {a a' b b' : List Char} (h : stop ∉ b) (h' : stop ∉ b')
    (heq : a ++ stop :: b = a' ++ stop :: b') : a = a' ∧ b = b' := by
  have hsplit := splitLast_append h a
  rw [heq, splitLast_append h' a'] at hsplit
  cases hsplit
  exact ⟨rfl, rfl⟩

theorem splitLast_of_not_mem {stop : Char} (h : stop ∉ s) : splitLast stop s = none := by
  have hall := Text.all_ne (mt List.mem_reverse.1 h)
  rw [splitLast, List.dropWhile_eq_nil_iff.2 hall]

theorem last_cases (stop : Char) (s : List Char) :
    stop ∉ s ∨ ∃ before after, s = before ++ stop :: after ∧ stop ∉ after := by
  by_cases h : stop ∈ s
  · obtain ⟨after, before, hs, hafter⟩ := List.eq_append_cons_of_mem (List.mem_reverse.2 h)
    refine .inr ⟨before.reverse, after.reverse, ?_, fun hmem => hafter (List.mem_reverse.1 hmem)⟩
    rw [← List.reverse_reverse s, hs]
    simp
  · exact .inl h

theorem readMapping_append (h : ':' ∉ numeral) (ha : address ≠ []) :
    readMapping (address ++ ':' :: numeral) = .ok p ↔ Decimal.IsUpTo 65535 numeral p ∧ p ≠ 0 := by
  rw [← Decimal.readUpTo_eq_some, readMapping, splitLast_append h]
  simp only [if_neg ha]
  cases hread : Decimal.readUpTo 65535 numeral with
  | none => simp
  | some n =>
    cases n with
    | zero =>
      refine iff_of_false (fun h => nomatch h) ?_
      intro ⟨hp, hne⟩
      exact hne (Option.some.inj hp).symm
    | succ n =>
      simp only [Except.ok.injEq, Option.some.injEq]
      constructor
      · intro hp
        exact ⟨hp, by omega⟩
      · exact And.left

theorem publishes_append (h : ':' ∉ numeral) (ha : address ≠ []) :
    Publishes (address ++ ':' :: numeral) p ↔ Decimal.IsUpTo 65535 numeral p ∧ p ≠ 0 := by
  constructor
  · intro hp
    obtain ⟨address', numeral', heq, h', -, hread⟩ := hp.written
    obtain ⟨-, rfl⟩ := eq_of_last h h' heq
    exact ⟨hread, hp.assigned⟩
  · intro hp
    exact ⟨⟨address, numeral, rfl, h, ha, hp.1⟩, hp.2⟩

theorem readMapping_eq_ok : readMapping line = .ok p ↔ Publishes line p := by
  rcases last_cases ':' line with h | ⟨address, numeral, rfl, h⟩
  · rw [readMapping, splitLast_of_not_mem h]
    refine iff_of_false (fun h => nomatch h) fun hp => ?_
    obtain ⟨address, numeral, rfl, -⟩ := hp.written
    exact h (List.mem_append_right address List.mem_cons_self)
  · by_cases ha : address = []
    · rw [readMapping, splitLast_append h]
      refine iff_of_false (by simp [ha]) fun hp => ?_
      obtain ⟨address', numeral', heq, h', ha', -⟩ := hp.written
      exact ha' ((eq_of_last h h' heq).1 ▸ ha)
    · rw [readMapping_append h ha, publishes_append h ha]

theorem SamePort.publishes (h : SamePort line line') (hp : Publishes line p) :
    Publishes line' p := by
  cases h with
  | same => exact hp
  | moved ha ha' hn =>
    rw [publishes_append hn ha] at hp
    rwa [publishes_append hn ha']

theorem SamePort.symm (h : SamePort line line') : SamePort line' line := by
  cases h with
  | same => exact .same line
  | moved ha ha' hn => exact .moved ha' ha hn

theorem SameListing.symm (h : SameListing output output') : SameListing output' output := by
  constructor
  · intro line hline
    obtain ⟨line', hline', hsame⟩ := h.given line hline
    exact ⟨line', hline', hsame.symm⟩
  · intro line hline
    obtain ⟨line', hline', hsame⟩ := h.kept line hline
    exact ⟨line', hline', hsame.symm⟩

theorem agree_some : agree (some q) lines = .ok p ↔ p = q ∧ ∀ line ∈ lines, Publishes line q := by
  induction lines with
  | nil => simp [agree, eq_comm]
  | cons line lines ih =>
    rw [agree, List.forall_mem_cons, Metrics.bind_eq_ok]
    simp only [readMapping_eq_ok]
    constructor
    · intro h
      obtain ⟨r, hline, hrest⟩ := h
      split at hrest
      · next heq =>
        obtain ⟨hp, hlines⟩ := ih.1 hrest
        exact ⟨hp, heq ▸ hline, hlines⟩
      · cases hrest
    · intro h
      obtain ⟨hp, hline, hlines⟩ := h
      refine ⟨q, hline, ?_⟩
      rw [if_pos rfl]
      exact ih.2 ⟨hp, hlines⟩

theorem agree_none :
    agree none lines = .ok p ↔ lines ≠ [] ∧ ∀ line ∈ lines, Publishes line p := by
  cases lines with
  | nil => simp [agree]
  | cons line lines =>
    rw [agree, List.forall_mem_cons, Metrics.bind_eq_ok]
    simp only [readMapping_eq_ok, agree_some]
    constructor
    · intro h
      obtain ⟨r, hline, rfl, hlines⟩ := h
      exact ⟨List.cons_ne_nil _ _, hline, hlines⟩
    · intro h
      obtain ⟨-, hline, hlines⟩ := h
      exact ⟨p, hline, rfl, hlines⟩

theorem readPort_eq_ok : readPort command output = .ok p ↔
    outputLines output ≠ [] ∧ ∀ line ∈ outputLines output, Publishes line p := by
  rw [← agree_none, readPort]
  cases agree none (outputLines output) <;> simp

theorem readPort_error (h : ¬∃ p, readPort command output = .ok p) :
    ∃ e, readPort command output = .error (.parse command e output) := by
  rw [readPort] at h ⊢
  cases ha : agree none (outputLines output) with
  | ok p => exact absurd ⟨p, by rw [ha]⟩ h
  | error e => exact ⟨e, rfl⟩

theorem mem_outputLines : line ∈ outputLines output ↔
    (∃ raw ∈ Text.lines output.toList, Text.trim raw = line) ∧ line ≠ [] := by
  rw [outputLines, List.mem_filter, List.mem_map, decide_eq_true_eq]

theorem SameListing.readPort_ok (h : SameListing output output')
    (hp : readPort command output = .ok p) : readPort command output' = .ok p := by
  obtain ⟨hne, hlines⟩ := readPort_eq_ok.1 hp
  refine readPort_eq_ok.2 ⟨fun hnil => ?_, fun line' hline' => ?_⟩
  · obtain ⟨line, hline⟩ := List.exists_mem_of_ne_nil _ hne
    obtain ⟨line', hline', -⟩ := h.kept line hline
    rw [hnil] at hline'
    cases hline'
  · obtain ⟨line, hline, hsame⟩ := h.given line' hline'
    exact hsame.publishes (hlines line hline)

/-- A listing is read exactly if it has a line that is not blank, and all such lines publish one
port; any other is an error with its text. Listings that agree but for the order, the repetition
and the addresses of their lines are read alike. -/
theorem readPort_of_publishes (command output : String) :
    (∀ p, readPort command output = .ok p ↔
      (∃ raw ∈ Text.lines output.toList, Text.trim raw ≠ []) ∧
      ∀ raw ∈ Text.lines output.toList, Text.trim raw ≠ [] → Publishes (Text.trim raw) p) ∧
    ((¬∃ p, readPort command output = .ok p) →
      ∃ e, readPort command output = .error (.parse command e output)) ∧
    ∀ output', SameListing output output' →
      ∀ p, readPort command output = .ok p ↔ readPort command output' = .ok p := by
  refine ⟨fun p => ?_, readPort_error, fun output' h p => ⟨h.readPort_ok, h.symm.readPort_ok⟩⟩
  rw [readPort_eq_ok]
  refine and_congr ?_ ?_
  · constructor
    · intro hlines
      obtain ⟨line, hline⟩ := List.exists_mem_of_ne_nil _ hlines
      obtain ⟨⟨raw, hraw, htrim⟩, hne⟩ := mem_outputLines.1 hline
      exact ⟨raw, hraw, htrim ▸ hne⟩
    · intro ⟨raw, hraw, hne⟩
      exact List.ne_nil_of_mem (mem_outputLines.2 ⟨⟨raw, hraw, rfl⟩, hne⟩)
  · simp only [mem_outputLines]
    constructor
    · intro h raw hraw hne
      exact h _ ⟨⟨raw, hraw, rfl⟩, hne⟩
    · intro h line ⟨⟨raw, hraw, htrim⟩, hne⟩
      exact htrim ▸ h raw hraw (htrim ▸ hne)

def bothFamilies : String := "0.0.0.0:49153\n[::]:49153\n"

def oneFamily : String := "\n  127.0.0.1:49153\r\n"

theorem readPort_of_publishes_families : SameListing bothFamilies oneFamily ∧
    readPort "docker" bothFamilies = .ok 49153 ∧ readPort "docker" oneFamily = .ok 49153 := by
  let numeral := "49153".toList
  let any := "0.0.0.0".toList
  let anySix := "[::]".toList
  let own := "127.0.0.1".toList
  have hcolon : ':' ∉ numeral := by decide
  have hboth : outputLines bothFamilies = [any ++ ':' :: numeral, anySix ++ ':' :: numeral] := by
    decide +kernel
  have hone : outputLines oneFamily = [own ++ ':' :: numeral] := by decide +kernel
  have hany : SamePort (any ++ ':' :: numeral) (own ++ ':' :: numeral) :=
    .moved (by decide) (by decide) hcolon
  have hsix : SamePort (anySix ++ ':' :: numeral) (own ++ ':' :: numeral) :=
    .moved (by decide) (by decide) hcolon
  have hsame : SameListing bothFamilies oneFamily := by
    constructor
    · rw [hboth, hone]
      intro line hline
      rcases List.mem_pair.1 hline with rfl | rfl
      · exact ⟨_, List.mem_cons_self, hany⟩
      · exact ⟨_, List.mem_cons_self, hsix⟩
    · rw [hboth, hone]
      intro line hline
      rw [List.mem_singleton.1 hline]
      exact ⟨_, List.mem_cons_self, hany⟩
  obtain ⟨p, hp, hport⟩ := Environment.exists_of_toOption (x := readPort "docker" bothFamilies)
    (p := fun p => p == 49153) (by decide +kernel)
  obtain rfl : p = 49153 := eq_of_beq hport
  exact ⟨hsame, hp, ((readPort_of_publishes _ _).2.2 _ hsame _).1 hp⟩

end Testbed.Docker
