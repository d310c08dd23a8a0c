import Testbed.Proofs.Placing
import Testbed.Proofs.Summing

/-!
The line that an error of a document names. All lines before it can be lexed, and none of them
contradicts another; so they make a document by themselves unless a sample among them is at fault.
-/
namespace Testbed

namespace Text

def firstLines : Nat → List Char → List Char
  | 0, _ => []
  | _ + 1, [] => []
  | n + 1, c :: r => c :: firstLines (if c = '\n' then n else n + 1) r

theorem firstLines_append {p : List Char} (h : '\n' ∉ p) (n : Nat) (rest : List Char) :
    firstLines (n + 1) (p ++ '\n' :: rest) = p ++ '\n' :: firstLines n rest := by
  induction p with
  | nil => rw [List.nil_append, firstLines, if_pos rfl, List.nil_append]
  | cons c p ih =>
    have hc : c ≠ '\n' := fun heq => h (heq ▸ List.mem_cons_self)
    have hp := ih fun hmem => h (List.mem_cons_of_mem c hmem)
    rw [List.cons_append, firstLines, if_neg hc, hp, List.cons_append]

theorem firstLines_of_not_mem {p : List Char} (h : '\n' ∉ p) (n : Nat) :
    firstLines (n + 1) p = p := by
  induction p with
  | nil => rfl
  | cons c p ih =>
    have hc : c ≠ '\n' := fun heq => h (heq ▸ List.mem_cons_self)
    rw [firstLines, if_neg hc, ih fun hmem => h (List.mem_cons_of_mem c hmem)]

theorem lines_append {p : List Char} (h : '\n' ∉ p) (rest : List Char) :
    lines (p ++ '\n' :: rest) = dropReturn p :: lines rest := by
  obtain ⟨q, qs, hq⟩ := List.exists_cons_of_ne_nil (cut_ne_nil '\n' rest)
  rw [lines, lines, cut_append h, hq]
  simp only [List.dropLast_cons_cons, List.map_cons, List.getLast?_cons_cons]
  split <;> rfl

theorem length_lines_le {p : List Char} (h : '\n' ∉ p) : (lines p).length ≤ 1 := by
  rw [lines, cut_of_not_mem h]
  cases p <;> simp

theorem lines_firstLines (n : Nat) (s : List Char) :
    lines (firstLines n s) = (lines s).take n := by
  induction n generalizing s with
  | zero =>
    rw [firstLines, List.take_zero]
    rfl
  | succ n ih =>
    by_cases h : '\n' ∈ s
    · obtain ⟨p, rest, rfl, hp⟩ := List.eq_append_cons_of_mem h
      rw [firstLines_append hp, lines_append hp, lines_append hp, List.take_succ_cons, ih]
    · have hlength := length_lines_le h
      rw [firstLines_of_not_mem h, List.take_of_length_le (by omega)]

end Text

namespace Metrics

def DocumentError.isEarly : DocumentError → Bool
  | line _ | conflict _ _ _ => true
  | _ => false

def Located.before (e : Located) (document : String) : String :=
  String.ofList (Text.firstLines (e.line - 1) document.toList)

/-- A sample that belongs elsewhere by what is declared overall, while what is declared so far
makes it a line of the aggregate of its own name, and one that does not fit. -/
def Displaced (soFar overall : Table Kind) (s : Sample) : Prop :=
  resolve soFar s.name ≠ resolve overall s.name ∧
    (kindOf soFar s.name).isAggregate ∧ ¬Part.Fits (kindOf soFar s.name) ⟨.value, s⟩

def numbered (n : Nat) (ls : List Line) : List (Nat × Sample) :=
  (ls.zipIdx n).filterMap fun l => l.1.sample?.map (l.2, ·)

variable {o o' : Outline} {ls ls' : List Line} {l : Line} {n : Nat} {e : Located}
  {texts : List (List Char)} {document : String} {kinds soFar overall : Table Kind} {s : Sample}
  {fs : Families}

theorem addLine_eq_ok {text : List Char} (h : o.addLine n text = .ok o') :
    ∃ l, lexLine text = .ok l ∧ o.add n l = .ok o' := by
  rw [Outline.addLine] at h
  cases hl : lexLine text with
  | error f => simp [hl] at h
  | ok l =>
    rw [hl] at h
    exact ⟨l, rfl, h⟩

theorem addLine_error {text : List Char} (h : o.addLine n text = .error e) :
    e.line = n ∧ e.error.isEarly = true := by
  rw [Outline.addLine] at h
  cases hl : lexLine text with
  | error f =>
    rw [hl] at h
    cases h
    exact ⟨rfl, rfl⟩
  | ok l =>
    rw [hl] at h
    cases l with
    | blank | comment | help | sample => cases h
    | declaration name kind =>
      simp only [Outline.add] at h
      split at h
      · split at h
        · cases h
        · cases h
          exact ⟨rfl, rfl⟩
      · cases h

theorem Outlines.read_error (h : Outlines o ls) (hr : o.read n texts = .error e) :
    ∃ before text after ls', texts = before ++ text :: after ∧ e.line = n + before.length ∧
      before.map lexLine = ls'.map .ok ∧ Agreeing (ls ++ ls') ∧ e.error.isEarly = true := by
  induction texts generalizing o ls n with
  | nil => cases hr
  | cons text texts ih =>
    rw [Outline.read] at hr
    cases ha : o.addLine n text with
    | error e' =>
      rw [ha] at hr
      cases hr
      obtain ⟨hline, hearly⟩ := addLine_error ha
      refine ⟨[], text, texts, [], rfl, hline, rfl, ?_, hearly⟩
      rw [List.append_nil]
      exact h.agreeing
    | ok o₁ =>
      rw [ha] at hr
      obtain ⟨l, hl, hadd⟩ := addLine_eq_ok ha
      obtain ⟨before, t, after, ls', rfl, hline, hlexed, hagree, hearly⟩ := ih (h.add hadd) hr
      refine ⟨text :: before, t, after, l :: ls', rfl, ?_, ?_, ?_, hearly⟩
      · rw [hline, List.length_cons]
        omega
      · rw [List.map_cons, List.map_cons, hl, hlexed]
      · rwa [List.append_assoc, List.singleton_append] at hagree

theorem numbered_cons (n : Nat) (l : Line) (ls : List Line) :
    numbered n (l :: ls) = (l.sample?.map (n, ·)).toList ++ numbered (n + 1) ls := by
  rw [numbered, List.zipIdx_cons, List.filterMap_cons, ← numbered]
  cases l.sample? <;> rfl

theorem add_samples (h : o.add n l = .ok o') :
    o'.samples = o.samples ++ (l.sample?.map (n, ·)).toList := by
  cases l with
  | blank | comment | help | sample =>
    cases h
    simp [Line.sample?]
  | declaration name kind =>
    simp only [Outline.add] at h
    split at h
    · split at h
      · cases h
        simp [Line.sample?]
      · cases h
    · cases h
      simp [Line.sample?]

theorem read_samples (hl : texts.map lexLine = ls.map .ok) (hr : o.read n texts = .ok o') :
    o'.samples = o.samples ++ numbered n ls := by
  induction texts generalizing o ls n with
  | nil =>
    cases hr
    obtain rfl : ls = [] := by simpa using hl
    simp [numbered]
  | cons text texts ih =>
    obtain ⟨o₁, hline, hrest⟩ := bind_eq_ok.1 hr
    obtain ⟨l, hlex, hadd⟩ := addLine_eq_ok hline
    cases ls with
    | nil => cases hl
    | cons l' ls =>
      obtain ⟨hfirst, htail⟩ := List.cons.inj hl
      obtain rfl : l = l' := Except.ok.inj (hlex.symm.trans hfirst)
      rw [ih htail hrest, add_samples hadd, List.append_assoc, numbered_cons]

theorem numbered_eq_append {before after : List (Nat × Sample)} {i : Nat}
    (h : numbered n ls = before ++ (i, s) :: after) :
    ∃ ls₁ ls₂, ls = ls₁ ++ .sample s :: ls₂ ∧ i = n + ls₁.length ∧
      samplesOf ls₁ = before.map (·.2) := by
  induction ls generalizing n before with
  | nil => simp [numbered] at h
  | cons l ls ih =>
    rw [numbered_cons] at h
    cases hl : l.sample? with
    | none =>
      rw [hl] at h
      obtain ⟨ls₁, ls₂, rfl, hi, hs⟩ := ih h
      refine ⟨l :: ls₁, ls₂, rfl, ?_, ?_⟩
      · rw [hi, List.length_cons]
        omega
      · rw [samplesOf, List.filterMap_cons, hl]
        exact hs
    | some s' =>
      rw [hl] at h
      obtain rfl : l = .sample s' := by
        cases l <;> cases hl
        rfl
      cases before with
      | nil =>
        cases h
        exact ⟨[], ls, rfl, rfl, rfl⟩
      | cons b before =>
        obtain ⟨hb, hrest⟩ := List.cons.inj h
        obtain ⟨ls₁, ls₂, rfl, hi, hs⟩ := ih hrest
        refine ⟨.sample s' :: ls₁, ls₂, rfl, ?_, ?_⟩
        · rw [hi, List.length_cons]
          omega
        · rw [List.map_cons, ← hb, ← hs]
          rfl

theorem foldlM_eq_error {ε α β : Type} {f : β → α → Except ε β} {as : List α} {b : β} {e : ε}
    (h : as.foldlM f b = .error e) :
    ∃ before a after b', as = before ++ a :: after ∧ before.foldlM f b = .ok b' ∧
      f b' a = .error e := by
  induction as generalizing b with
  | nil => cases h
  | cons a as ih =>
    rw [List.foldlM_cons] at h
    cases hf : f b a with
    | error e' =>
      rw [hf] at h
      cases h
      exact ⟨[], a, as, b, rfl, rfl, hf⟩
    | ok b₁ =>
      rw [hf] at h
      obtain ⟨before, a', after, b', rfl, hb, ha⟩ := ih h
      refine ⟨a :: before, a', after, b', rfl, ?_, ha⟩
      rw [List.foldlM_cons, hf]
      exact hb

def FailsLate {α : Type} (x : Except DocumentError α) : Prop :=
  ∀ e, x = .error e → e.isEarly = false

theorem failsLate_ok {α : Type} (a : α) : FailsLate (.ok a) := fun _ h => nomatch h

theorem FailsLate.bind {α β : Type} {x : Except DocumentError α} {f : α → Except DocumentError β}
    (hx : FailsLate x) (hf : ∀ a, FailsLate (f a)) : FailsLate (x >>= f) := by
  intro e h
  cases x with
  | error e' =>
    cases h
    exact hx e rfl
  | ok a => exact hf a e h

theorem labelSet_failsLate (pairs : List (String × String)) : FailsLate (labelSet pairs) := by
  intro e h
  obtain ⟨_, p, _, t, -, -, hp⟩ := foldlM_eq_error h
  split at hp
  · cases hp
    rfl
  · cases hp

theorem takeBound_failsLate (kind : Kind) (role : Role) (s : Sample) (labels : Labels) :
    FailsLate (takeBound kind role s labels) := by
  intro e h
  cases role with
  | sum | count => cases h
  | bucket | value =>
    simp only [takeBound] at h
    split at h
    · cases h
      rfl
    · split at h
      · cases h
        rfl
      · cases h

theorem Series.fold_failsLate (role : Role) (bound : Option Float) (s : Sample) (m : Series) :
    FailsLate (m.fold role bound s) := by
  intro e h
  rw [Series.fold] at h
  split at h
  · cases h
  · cases h
    rfl

theorem foldInto_failsLate {step : Series → Except DocumentError Series}
    (h : ∀ m, FailsLate (step m)) (kind : Kind) (labels : Labels) (series : List Series) :
    FailsLate (foldInto kind labels step series) := by
  induction series with
  | nil => exact (h _).bind fun m => failsLate_ok _
  | cons m rest ih =>
    rw [foldInto]
    split
    · exact (h m).bind fun m' => failsLate_ok _
    · exact ih.bind fun rest' => failsLate_ok _

theorem Family.add_failsLate (f : Family) (role : Role) (s : Sample) : FailsLate (f.add role s) := by
  refine (labelSet_failsLate s.labels).bind fun labels => ?_
  split
  · refine (takeBound_failsLate f.kind role s labels).bind fun taken => ?_
    exact (foldInto_failsLate (Series.fold_failsLate role taken.2 s) _ _ _).bind
      fun series => failsLate_ok _
  · exact failsLate_ok _

theorem attach_error (h : attach o fs (n, s) = .error e) :
    e.line = n ∧ e.error.isEarly = false := by
  simp only [attach] at h
  split at h
  · cases h
  · next f hf =>
    cases h
    exact ⟨rfl, Family.add_failsLate _ _ s f hf⟩

theorem families_error (h : o.families = .error e) :
    ∃ before s after, o.samples = before ++ (e.line, s) :: after ∧
      (∀ s' ∈ before.map (·.2), AdmissibleIn o.kinds s') ∧ e.error.isEarly = false := by
  obtain ⟨before, ⟨i, s⟩, after, fs, hsamples, hbefore, hs⟩ := foldlM_eq_error h
  obtain ⟨rfl, hlate⟩ := attach_error hs
  exact ⟨before, s, after, hsamples, (holds_of_attached hbefore).1, hlate⟩

section Later

variable (hsub : ∀ name kind, soFar.get? name = some kind → overall.get? name = some kind)
include hsub

theorem filter_declaredAs_mono {p : Kind → Bool} {stem : Option String} {base : String}
    (h : stem.filter (declaredAs soFar p) = some base) :
    stem.filter (declaredAs overall p) = some base := by
  obtain ⟨rfl, hdeclared⟩ := Option.filter_eq_some_iff.1 h
  obtain ⟨kind, hkind, hp⟩ := (Option.any_eq_true _ _).1 hdeclared
  have hoverall : declaredAs overall p base = true :=
    (Option.any_eq_true _ _).2 ⟨kind, hsub base kind hkind, hp⟩
  exact Option.filter_eq_some_iff.2 ⟨rfl, hoverall⟩

theorem resolve_mono (name : String) :
    resolve soFar name = resolve overall name ∨ resolve soFar name = (name, .value) := by
  have hmono := @filter_declaredAs_mono soFar overall hsub
  cases hbucket : (stem? "_bucket" name).filter (declaredAs soFar (· = .histogram)) with
  | some base => exact .inl (by simp [resolve, List.findSome?, hbucket, hmono hbucket])
  | none =>
    cases hsum : (stem? "_sum" name).filter (declaredAs soFar Kind.isAggregate) with
    | some base =>
      have hname : name = base ++ "_sum" := eq_of_stem? (Option.filter_eq_some_iff.1 hsum).1
      have hother : stem? "_bucket" name = none := by
        rw [hname]
        exact stem?_of_ends (by decide) (by decide) (by decide) base
      exact .inl (by simp [resolve, List.findSome?, hother, hsum, hmono hsum])
    | none =>
      cases hcount : (stem? "_count" name).filter (declaredAs soFar Kind.isAggregate) with
      | some base =>
        have hname : name = base ++ "_count" := eq_of_stem? (Option.filter_eq_some_iff.1 hcount).1
        have hother : stem? "_bucket" name = none ∧ stem? "_sum" name = none := by
          rw [hname]
          exact ⟨stem?_of_ends (by decide) (by decide) (by decide) base,
            stem?_of_ends (by decide) (by decide) (by decide) base⟩
        exact .inl (by simp [resolve, List.findSome?, hother, hcount, hmono hcount])
      | none => exact .inr (by simp [resolve, List.findSome?, hbucket, hsum, hcount])

theorem kindOf_mono {name : String} (h : (kindOf soFar name).isAggregate) :
    kindOf overall name = kindOf soFar name := by
  cases hk : soFar.get? name with
  | none =>
    rw [kindOf, hk] at h
    cases h
  | some kind => rw [kindOf, kindOf, hk, hsub name kind hk]

theorem admissibleIn_iff (h : AdmissibleIn overall s) :
    AdmissibleIn soFar s ↔ ¬Displaced soFar overall s := by
  by_cases hsame : resolve soFar s.name = resolve overall s.name
  · have hfamily : familyName soFar s = familyName overall s := by rw [familyName, familyName, hsame]
    have hpart : part soFar s = part overall s := by rw [part, part, hsame]
    have hadmissible : AdmissibleIn soFar s := by
      rw [AdmissibleIn, hfamily, hpart]
      refine ⟨h.names, fun hk => ?_⟩
      have hfits := h.fits
      rw [kindOf_mono hsub hk] at hfits
      exact hfits hk
    exact iff_of_true hadmissible fun hd => hd.1 hsame
  · have hown := (resolve_mono hsub s.name).resolve_left hsame
    have hfamily : familyName soFar s = s.name := by rw [familyName, hown]
    have hpart : part soFar s = ⟨.value, s⟩ := by rw [part, hown]
    rw [AdmissibleIn, hfamily, hpart]
    constructor
    · exact fun hadmissible hd => hd.2.2 (hadmissible.fits hd.2.1)
    · intro hd
      exact ⟨h.names, fun hk => not_not.1 fun hmisfit => hd ⟨hsame, hk, hmisfit⟩⟩

end Later

theorem exists_error {ε α : Type} {x : Except ε α} {p : ε → Bool}
    (h : (match x with | .ok _ => false | .error e => p e) = true) :
    ∃ e, x = .error e ∧ p e = true := by
  cases x with
  | ok a => cases h
  | error e => exact ⟨e, rfl, h⟩

theorem exists_parse_iff (hls : (Text.lines document.toList).map lexLine = ls.map .ok)
    (hagree : Agreeing ls) :
    (∃ fs, parse document = .ok fs) ↔ ∀ s ∈ samplesOf ls, AdmissibleIn (kindsOf ls) s := by
  constructor
  · intro h
    obtain ⟨fs, hfs⟩ := h
    obtain ⟨ls', hls', -, hadmissible, -⟩ := parse_eq_ok.1 hfs
    rwa [← linesIn_of_lexed hls', linesIn_of_lexed hls] at hadmissible
  · intro hadmissible
    obtain ⟨o, ho⟩ := outlines_empty.exists_read 1 hls hagree
    obtain ⟨ls', hls', houtline⟩ := outlines_empty.read ho
    rw [List.nil_append, ← linesIn_of_lexed hls', linesIn_of_lexed hls] at houtline
    rw [← houtline.kinds, ← houtline.samples] at hadmissible
    obtain ⟨fs, hfs⟩ := exists_attached hadmissible
    exact ⟨fs, bind_eq_ok.2 ⟨o, ho, hfs⟩⟩

theorem lines_before (e : Located) (document : String) :
    Text.lines (e.before document).toList = (Text.lines document.toList).take (e.line - 1) := by
  rw [Located.before, String.toList_ofList, Text.lines_firstLines]

/-- An error names a line of the document. The lines before it are accepted by themselves exactly
if nothing among their samples is wrong: after an early error, by what they declare; after a late
one, since all of them suit the whole document, if what follows takes none of them away from an
aggregate that it does not fit. -/
theorem parse_error_line (h : parse document = .error e) :
    1 ≤ e.line ∧ e.line ≤ (Text.lines document.toList).length ∧
      Text.lines (e.before document).toList = (Text.lines document.toList).take (e.line - 1) ∧
      let earlier := linesIn (e.before document)
      (e.error.isEarly = true → ((∃ fs, parse (e.before document) = .ok fs) ↔
        ∀ s ∈ samplesOf earlier, AdmissibleIn (kindsOf earlier) s)) ∧
      (e.error.isEarly = false → ((∃ fs, parse (e.before document) = .ok fs) ↔
        ∀ s ∈ samplesOf earlier, ¬Displaced (kindsOf earlier) (kindsOf (linesIn document)) s)) := by
  have hbefore := lines_before e document
  rw [parse] at h
  cases hr : Outline.empty.read 1 (Text.lines document.toList) with
  | error e' =>
    rw [hr] at h
    cases h
    obtain ⟨before, text, after, ls, htexts, hline, hlexed, hagree, hearly⟩ :=
      outlines_empty.read_error hr
    rw [htexts, hline, Nat.add_sub_cancel_left, List.take_left] at hbefore
    rw [← hbefore] at hlexed
    have hlength : before.length < (Text.lines document.toList).length := by simp [htexts]
    refine ⟨by omega, by omega, lines_before e document, ?_, fun hlate => ?_⟩
    · intro _
      rw [linesIn_of_lexed hlexed]
      exact exists_parse_iff hlexed hagree
    · rw [hearly] at hlate
      cases hlate
  | ok o =>
    rw [hr] at h
    obtain ⟨ls, hls, houtline⟩ := outlines_empty.read hr
    rw [List.nil_append] at houtline
    obtain ⟨before, s, after, hsamples, hadmissible, hlate⟩ := families_error h
    rw [read_samples hls hr] at hsamples
    obtain ⟨ls₁, ls₂, rfl, hline, hs⟩ := numbered_eq_append hsamples
    rw [← hs, houtline.kinds] at hadmissible
    have hlexed : (Text.lines (e.before document).toList).map lexLine = ls₁.map .ok := by
      rw [hbefore, hline, Nat.add_sub_cancel_left, List.map_take, hls, List.map_append,
        List.take_left' (List.length_map _)]
    have hlength := congrArg List.length hls
    simp only [List.length_map, List.length_append, List.length_cons] at hlength
    have hagree := houtline.agreeing.mono (List.subset_append_left ls₁ (.sample s :: ls₂))
    have hsub : ∀ name kind, (kindsOf ls₁).get? name = some kind →
        (kindsOf (ls₁ ++ .sample s :: ls₂)).get? name = some kind := by
      intro name kind hkind
      rw [hagree.get?_kindsOf] at hkind
      rw [houtline.agreeing.get?_kindsOf]
      exact List.mem_append_left _ hkind
    refine ⟨by omega, by omega, hbefore, fun hearly => ?_, fun _ => ?_⟩
    · rw [hlate] at hearly
      cases hearly
    · rw [linesIn_of_lexed hlexed, linesIn_of_lexed hls, exists_parse_iff hlexed hagree]
      exact forall₂_congr fun s' hs' => admissibleIn_iff hsub (hadmissible s' hs')

def boundless : String := "h_sum 1\n# TYPE h histogram\nh_bucket 2\n# TYPE up gauge\n"

theorem parse_error_line_boundless :
    ∃ e, parse boundless = .error e ∧ e.line = 3 ∧
      ∃ fs, parse (e.before boundless) = .ok fs := by
  obtain ⟨e, he, hp⟩ := exists_error (x := parse boundless)
    (p := fun e => e.line == 3 && !e.error.isEarly &&
      (samplesOf (linesIn (e.before boundless))).all fun s =>
        resolve (kindsOf (linesIn (e.before boundless))) s.name =
          resolve (kindsOf (linesIn boundless)) s.name)
    (by decide +kernel)
  simp only [Bool.and_eq_true, beq_iff_eq, Bool.not_eq_true', List.all_eq_true,
    decide_eq_true_eq] at hp
  obtain ⟨⟨hline, hlate⟩, hsame⟩ := hp
  obtain ⟨-, -, -, -, hiff⟩ := parse_error_line he
  exact ⟨e, he, hline, (hiff hlate).2 fun s hs hd => hd.1 (hsame s hs)⟩

def twiceWrong : String := "up\x7ba=\"1\",a=\"2\"\x7d 1\n?\n"

theorem faulty_before_error_line :
    ∃ e, parse twiceWrong = .error e ∧ e.line = 2 ∧
      ¬∃ fs, parse (e.before twiceWrong) = .ok fs := by
  obtain ⟨e, he, hp⟩ := exists_error (x := parse twiceWrong)
    (p := fun e => e.line == 2 && (parse (e.before twiceWrong)).toOption.isNone)
    (by decide +kernel)
  simp only [Bool.and_eq_true, beq_iff_eq] at hp
  refine ⟨e, he, hp.1, ?_⟩
  intro ⟨fs, hfs⟩
  rw [hfs] at hp
  cases hp.2

def takenAway : String :=
  "# TYPE h_bucket summary\nh_bucket\x7ble=\"1\"\x7d 1\nh_bucket 1\n# TYPE h histogram\n"

example : ∃ e, parse takenAway = .error e ∧
    (e.line == 3 && (parse (e.before takenAway)).toOption.isNone) = true :=
  exists_error (by decide +kernel)

end Metrics

end Testbed
