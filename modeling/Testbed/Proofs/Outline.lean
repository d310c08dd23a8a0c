import Mathlib.Data.List.Basic
import Testbed.Metrics.Document

/-!
What a first pass over a document collects, told by its lines. A document can be outlined
exactly if each of its lines can be lexed and no name is declared with two kinds.
-/
namespace Testbed.Metrics

namespace Line

def declaration? : Line → Option (String × Kind)
  | declaration name kind => some (name, kind)
  | _ => none

def help? : Line → Option (String × String)
  | help name text => some (name, text)
  | _ => none

def sample? : Line → Option Sample
  | sample s => some s
  | _ => none

end Line

def declarationsOf (ls : List Line) : List (String × Kind) := ls.filterMap Line.declaration?

def samplesOf (ls : List Line) : List Sample := ls.filterMap Line.sample?

def Agreeing (ls : List Line) : Prop :=
  ∀ p ∈ declarationsOf ls, ∀ q ∈ declarationsOf ls, p.1 = q.1 → p.2 = q.2

def kindsOf (ls : List Line) : Table Kind := .ofList (declarationsOf ls)

def helpsOf (ls : List Line) : Table String := .ofList (ls.filterMap Line.help?)

structure Outlines (o : Outline) (ls : List Line) : Prop where
  kinds : o.kinds = kindsOf ls
  helps : o.helps = helpsOf ls
  samples : o.samples.map (·.2) = samplesOf ls
  agreeing : Agreeing ls

variable {o o' : Outline} {ls ls' : List Line} {l : Line} {n : Nat} {name : String} {kind : Kind}

theorem bind_eq_ok {ε α β : Type} {x : Except ε α} {f : α → Except ε β} {b : β} :
    (x >>= f) = .ok b ↔ ∃ a, x = .ok a ∧ f a = .ok b := by
  cases x <;> simp [bind, Except.bind]

theorem filterMap_concat {α β : Type} (f : α → Option β) (as : List α) (a : α) :
    (as ++ [a]).filterMap f = as.filterMap f ++ (f a).toList := by
  cases h : f a <;> simp [h]

theorem mem_declarationsOf : (name, kind) ∈ declarationsOf ls ↔ .declaration name kind ∈ ls := by
  constructor
  · intro h
    obtain ⟨l, hl, heq⟩ := List.mem_filterMap.mp h
    cases l <;> simp_all [Line.declaration?]
  · intro h
    exact List.mem_filterMap.mpr ⟨_, h, rfl⟩

theorem Agreeing.get?_kindsOf (h : Agreeing ls) :
    (kindsOf ls).get? name = some kind ↔ .declaration name kind ∈ ls := by
  rw [kindsOf, Table.get?_ofList h, mem_declarationsOf]

theorem Agreeing.mono (h : Agreeing ls') (hs : ls ⊆ ls') : Agreeing ls := by
  have hmem : ∀ p ∈ declarationsOf ls, p ∈ declarationsOf ls' := fun p hp =>
    mem_declarationsOf.mpr (hs (mem_declarationsOf.mp hp))
  exact fun p hp q hq => h p (hmem p hp) q (hmem q hq)

theorem Agreeing.concat (h : Agreeing ls)
    (hl : ∀ name kind, l = .declaration name kind →
      ∀ first, (kindsOf ls).get? name = some first → first = kind) : Agreeing (ls ++ [l]) := by
  have hsame : ∀ p ∈ declarationsOf ls, ∀ q, l.declaration? = some q → p.1 = q.1 → p.2 = q.2 := by
    intro p hp q hq hpq
    obtain ⟨name, kind⟩ := p
    cases l <;> cases hq
    cases hpq
    exact hl _ _ rfl kind (h.get?_kindsOf.mpr (mem_declarationsOf.mp hp))
  intro p hp q hq hpq
  rw [declarationsOf, filterMap_concat, List.mem_append, Option.mem_toList] at hp hq
  rcases hp with hp | hp <;> rcases hq with hq | hq
  · exact h p hp q hq hpq
  · exact hsame p hp q hq hpq
  · exact (hsame q hq p hp hpq.symm).symm
  · exact congrArg Prod.snd (Option.some.inj (hp.symm.trans hq))

theorem kindsOf_concat (ls : List Line) (l : Line) : kindsOf (ls ++ [l]) =
    match l with
    | .declaration name kind => (kindsOf ls).insert name kind
    | _ => kindsOf ls := by
  rw [kindsOf, declarationsOf, filterMap_concat]
  cases l <;> simp [kindsOf, declarationsOf, Line.declaration?, Table.ofList_concat]

theorem helpsOf_concat (ls : List Line) (l : Line) : helpsOf (ls ++ [l]) =
    match l with
    | .help name text => (helpsOf ls).insert name text
    | _ => helpsOf ls := by
  rw [helpsOf, filterMap_concat]
  cases l <;> simp [helpsOf, Line.help?, Table.ofList_concat]

theorem samplesOf_concat (ls : List Line) (l : Line) :
    samplesOf (ls ++ [l]) = samplesOf ls ++ l.sample?.toList :=
  filterMap_concat Line.sample? ls l

theorem outlines_empty : Outlines .empty [] := by
  refine ⟨rfl, rfl, rfl, ?_⟩
  intro p hp
  cases hp

theorem Outlines.add (h : Outlines o ls) (ha : o.add n l = .ok o') : Outlines o' (ls ++ [l]) := by
  obtain ⟨hkinds, hhelps, hsamples, hagree⟩ := h
  have hdeclared : ∀ name kind, l = .declaration name kind →
      ∀ first, (kindsOf ls).get? name = some first → first = kind := by
    rintro name kind rfl first hfirst
    rw [← hkinds] at hfirst
    by_contra hne
    simp [Outline.add, hfirst, hne] at ha
  have hagree' := hagree.concat hdeclared
  cases l with
  | blank | comment =>
    cases ha
    refine ⟨?_, ?_, ?_, hagree'⟩
    · rw [kindsOf_concat, hkinds]
    · rw [helpsOf_concat, hhelps]
    · simp [samplesOf_concat, hsamples, Line.sample?]
  | help name text =>
    cases ha
    refine ⟨?_, ?_, ?_, hagree'⟩
    · rw [kindsOf_concat, hkinds]
    · rw [helpsOf_concat, hhelps]
    · simp [samplesOf_concat, hsamples, Line.sample?]
  | declaration name kind =>
    -- A declaration that is repeated adds nothing, and neither does inserting it once more.
    have heq : o' = { o with kinds := o.kinds.insert name kind } := by
      cases hf : o.kinds.get? name with
      | none =>
        simp only [Outline.add, hf, Except.ok.injEq] at ha
        exact ha.symm
      | some first =>
        have hk : first = kind := hdeclared name kind rfl first (by rw [← hkinds, hf])
        subst hk
        simp only [Outline.add, hf, if_true, Except.ok.injEq] at ha
        rw [Table.insert_of_get? hf, ha]
    subst heq
    refine ⟨?_, ?_, ?_, hagree'⟩
    · rw [kindsOf_concat, hkinds]
    · rw [helpsOf_concat, hhelps]
    · simp [samplesOf_concat, hsamples, Line.sample?]
  | sample s =>
    cases ha
    refine ⟨?_, ?_, ?_, hagree'⟩
    · rw [kindsOf_concat, hkinds]
    · rw [helpsOf_concat, hhelps]
    · rw [samplesOf_concat, List.map_append, hsamples]
      rfl

theorem Outlines.exists_add (h : Outlines o ls) (n : Nat) (ha : Agreeing (ls ++ [l])) :
    ∃ o', o.add n l = .ok o' := by
  cases l with
  | blank | comment => exact ⟨o, rfl⟩
  | help name text => exact ⟨_, rfl⟩
  | sample s => exact ⟨_, rfl⟩
  | declaration name kind =>
    cases hf : o.kinds.get? name with
    | none => exact ⟨{ o with kinds := o.kinds.insert name kind }, by simp [Outline.add, hf]⟩
    | some first =>
      have hk : first = kind := by
        rw [h.kinds, h.agreeing.get?_kindsOf] at hf
        refine ha (name, first) (mem_declarationsOf.mpr (List.mem_append_left _ hf)) (name, kind)
          (mem_declarationsOf.mpr (List.mem_append_right _ List.mem_cons_self)) rfl
      exact ⟨o, by simp [Outline.add, hf, hk]⟩

theorem Outlines.read {texts : List (List Char)} (h : Outlines o ls)
    (hr : o.read n texts = .ok o') :
    ∃ ls', texts.map lexLine = ls'.map .ok ∧ Outlines o' (ls ++ ls') := by
  induction texts generalizing o ls n with
  | nil =>
    cases hr
    exact ⟨[], rfl, by simpa using h⟩
  | cons text texts ih =>
    obtain ⟨o₁, hline, hrest⟩ := bind_eq_ok.1 hr
    rw [Outline.addLine] at hline
    cases hl : lexLine text with
    | error e => simp [hl] at hline
    | ok l =>
      rw [hl] at hline
      obtain ⟨ls', hls, ho⟩ := ih (h.add hline) hrest
      rw [List.append_assoc, List.singleton_append] at ho
      exact ⟨l :: ls', by simp [hl, hls], ho⟩

theorem Outlines.exists_read {texts : List (List Char)} (h : Outlines o ls) (n : Nat)
    (hl : texts.map lexLine = ls'.map .ok) (ha : Agreeing (ls ++ ls')) :
    ∃ o', o.read n texts = .ok o' := by
  induction texts generalizing o ls ls' n with
  | nil => exact ⟨o, rfl⟩
  | cons text texts ih =>
    cases ls' with
    | nil => cases hl
    | cons l ls' =>
      obtain ⟨hfirst, hrest⟩ := List.cons.inj hl
      rw [← List.singleton_append, ← List.append_assoc] at ha
      obtain ⟨o₁, ho₁⟩ := h.exists_add n (ha.mono (List.subset_append_left _ _))
      obtain ⟨o', ho'⟩ := ih (h.add ho₁) (n + 1) hrest ha
      exact ⟨o', by simpa [Outline.read, Outline.addLine, hfirst, ho₁, bind, Except.bind] using ho'⟩

end Testbed.Metrics
