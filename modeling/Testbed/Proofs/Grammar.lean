import Testbed.Proofs.Rendering
import Testbed.Proofs.Tokens

/-!
The grammar of sample lines. Blanks may stand between most tokens, the value of a label may be
escaped in more than one way, and a comma may follow the last label. Each scanner takes exactly
what the grammar gives it and leaves the rest.
-/
namespace Testbed.Metrics

def Blanks (s : List Char) : Prop := ∀ c ∈ s, isSeparator c

/-- The text between two quotes and the value it stands for. No quote in it is unescaped, and a
backslash that begins no escape stands for itself. -/
inductive Quotes : List Char → List Char → Prop
  | nil : Quotes [] []
  | plain {c : Char} {t v : List Char} (hc : c ≠ '"' ∧ c ≠ '\\') (h : Quotes t v) :
      Quotes (c :: t) (c :: v)
  | feed {t v : List Char} (h : Quotes t v) : Quotes ('\\' :: 'n' :: t) ('\n' :: v)
  | mark {c : Char} {t v : List Char} (hc : c = '\\' ∨ c = '"') (h : Quotes t v) :
      Quotes ('\\' :: c :: t) (c :: v)
  | other {c : Char} {t v : List Char} (hc : c ≠ 'n' ∧ c ≠ '\\' ∧ c ≠ '"') (h : Quotes t v) :
      Quotes ('\\' :: c :: t) ('\\' :: c :: v)

/-- The one text that escapes line feeds, backslashes and quotes, and nothing else. -/
def Escapes (t v : List Char) : Prop := t = v.flatMap escapeLabel

section Lines

variable (quotes : List Char → List Char → Prop)

inductive PairText : List Char → String × String → Prop
  | mk {p : String × String} {before after text : List Char}
      (hname : IsName isLabelStart isLabelContinue p.1.toList) (hbefore : Blanks before)
      (hafter : Blanks after) (htext : quotes text p.2.toList) :
      PairText (p.1.toList ++ (before ++ '=' :: (after ++ '"' :: (text ++ ['"'])))) p

inductive FurtherText : List Char → List (String × String) → Prop
  | nil : FurtherText [] []
  | cons {p : String × String} {ps : List (String × String)} {before after pair more : List Char}
      (hbefore : Blanks before) (hafter : Blanks after) (hp : PairText quotes pair p)
      (hps : FurtherText more ps) :
      FurtherText (before ++ ',' :: (after ++ (pair ++ more))) (p :: ps)

inductive PairsText : List Char → List (String × String) → Prop
  | nil : PairsText [] []
  | cons {p : String × String} {ps : List (String × String)} {pair more : List Char}
      (hp : PairText quotes pair p) (hps : FurtherText quotes more ps) :
      PairsText (pair ++ more) (p :: ps)

inductive CommaText : List Char → Prop
  | absent : CommaText []
  | comma {after : List Char} (h : Blanks after) : CommaText (',' :: after)

inductive BlockText : List Char → List (String × String) → Prop
  | mk {ps : List (String × String)} {before pairs after comma : List Char}
      (hbefore : Blanks before) (hpairs : PairsText quotes pairs ps) (hafter : Blanks after)
      (hcomma : CommaText comma) :
      BlockText ('\x7b' :: (before ++ (pairs ++ (after ++ (comma ++ ['\x7d']))))) ps

inductive HeadText : List Char → List (String × String) → Prop
  | bare {blanks : List Char} (h : Blanks blanks) (hne : blanks ≠ []) : HeadText blanks []
  | block {ps : List (String × String)} {before block after : List Char} (hbefore : Blanks before)
      (h : BlockText quotes block ps) (hafter : Blanks after) :
      HeadText (before ++ (block ++ after)) ps

inductive StampText : List Char → Option Int → Prop
  | absent : StampText [] none
  | stamp {t : Int} {blanks numeral : List Char} (h : Blanks blanks) (hne : blanks ≠ [])
      (hn : Decimal.IsInt64 numeral t) : StampText (blanks ++ numeral) (some t)

inductive SampleText : List Char → Sample → Prop
  | mk {s : Sample} {head token stamp : List Char}
      (hname : IsName isNameStart isNameContinue s.name.toList)
      (hhead : HeadText quotes head s.labels) (htoken : ∀ c ∈ token, isSeparator c = false)
      (hreads : Decimal.readFloat token = some s.value) (hstamp : StampText stamp s.timestamp) :
      SampleText (s.name.toList ++ (head ++ (token ++ stamp))) s

end Lines

variable {start continue_ : Char → Bool} {name rest s : List Char}

theorem mem_head?_append {a b : List Char} (ha : a ≠ []) {c : Char}
    (h : c ∈ (a ++ b).head?) : c ∈ a := by
  rw [List.head?_append, Option.or_of_isSome (List.isSome_head?.2 ha)] at h
  exact List.mem_of_mem_head? h

theorem mem_getLast?_append {a b : List Char} (hb : b ≠ []) {c : Char}
    (h : c ∈ (a ++ b).getLast?) : c ∈ b := by
  rw [List.getLast?_append, Option.or_of_isSome (List.getLast?_isSome.2 hb)] at h
  exact List.mem_of_getLast? h

theorem isSeparator_iff {c : Char} : isSeparator c ↔ c = ' ' ∨ c = '\t' := by
  simp [isSeparator]

theorem isBlank_of_isSeparator {c : Char} (h : isSeparator c) : Text.isBlank c := by
  rcases isSeparator_iff.1 h with rfl | rfl <;> rfl

theorem not_isSeparator {c : Char} (h : Text.isBlank c = false) : isSeparator c = false :=
  Bool.eq_false_iff.2 fun hs => by simp [isBlank_of_isSeparator hs] at h

theorem scanName_append (h : IsName start continue_ name)
    (hr : ∀ c ∈ rest.head?, continue_ c = false) :
    scanName start continue_ (name ++ rest) = .ok (name, rest) := by
  obtain ⟨c, r, rfl, hc, hcontinue⟩ := h
  rw [List.all_eq_true] at hcontinue
  rw [List.cons_append, scanName, if_pos hc, Text.takeWhile_stop hcontinue hr,
    Text.dropWhile_stop hcontinue hr]

theorem not_isBlank_of_isNameContinue {c : Char} (h : isNameContinue c) :
    Text.isBlank c = false := by
  simp only [isNameContinue, Bool.or_eq_true, beq_iff_eq, or_assoc] at h
  rcases h with h | rfl | rfl
  · exact Decimal.not_isBlank_of_isMark (by simp [Decimal.isMark, h])
  · rfl
  · rfl

theorem IsName.solid (h : IsName start continue_ name) (hs : ∀ c, start c → isNameContinue c)
    (hc : ∀ c, continue_ c → isNameContinue c) : ∀ c ∈ name, Text.isBlank c = false := by
  obtain ⟨c, r, rfl, hfirst, hrest⟩ := h
  exact List.forall_mem_cons.2 ⟨not_isBlank_of_isNameContinue (hs c hfirst),
    fun d hd => not_isBlank_of_isNameContinue (hc d (List.all_eq_true.1 hrest d hd))⟩

theorem metricName_solid (h : IsName isNameStart isNameContinue name) :
    ∀ c ∈ name, Text.isBlank c = false := by
  refine h.solid (fun c hc => ?_) fun c hc => hc
  simp only [isNameStart, isNameContinue, Char.isAlphanum, Bool.or_eq_true, beq_iff_eq] at hc ⊢
  tauto

theorem labelName_solid (h : IsName isLabelStart isLabelContinue name) :
    ∀ c ∈ name, Text.isBlank c = false := by
  refine h.solid (fun c hc => ?_) (fun c hc => ?_)
  · simp only [isLabelStart, isNameContinue, Char.isAlphanum, Bool.or_eq_true, beq_iff_eq] at hc ⊢
    tauto
  · simp only [isLabelContinue, isNameContinue, Bool.or_eq_true, beq_iff_eq] at hc ⊢
    tauto

theorem IsName.ne_nil (h : IsName start continue_ name) : name ≠ [] := by
  obtain ⟨c, r, rfl, -⟩ := h
  exact List.cons_ne_nil c r

theorem IsName.begins (h : IsName isNameStart isNameContinue name) :
    ∃ c r, name = c :: r ∧ isNameStart c ∧ Text.isBlank c = false := by
  have hsolid := metricName_solid h
  obtain ⟨c, r, rfl, hc, -⟩ := h
  exact ⟨c, r, rfl, hc, hsolid c List.mem_cons_self⟩

section Blanks

variable {blanks : List Char}

theorem blanks_nil : Blanks [] := fun _ h => nomatch h

theorem blanks_space : Blanks [' '] := by
  intro c hc
  rw [List.mem_singleton.1 hc]
  rfl

theorem skipSeparators_append (h : Blanks blanks) (hr : ∀ c ∈ rest.head?, isSeparator c = false) :
    skipSeparators (blanks ++ rest) = rest :=
  Text.dropWhile_stop h hr

theorem scanSeparators_append (h : Blanks blanks) (hne : blanks ≠ [])
    (hr : ∀ c ∈ rest.head?, isSeparator c = false) :
    scanSeparators (blanks ++ rest) = .ok rest := by
  obtain ⟨c, b, rfl⟩ := List.exists_cons_of_ne_nil hne
  have hskip := skipSeparators_append h hr
  rw [List.cons_append] at hskip ⊢
  rw [scanSeparators, if_pos (h c List.mem_cons_self), hskip]

theorem scanSeparators_space (h : ∀ c ∈ rest.head?, Text.isBlank c = false) :
    scanSeparators (' ' :: rest) = .ok rest :=
  scanSeparators_append blanks_space (List.cons_ne_nil _ _) fun c hc => not_isSeparator (h c hc)

theorem head?_blanks_append {p : Char → Prop} (h : Blanks blanks) (hs : ∀ c, isSeparator c → p c)
    (hr : ∀ c ∈ rest.head?, p c) : ∀ c ∈ (blanks ++ rest).head?, p c := by
  cases blanks with
  | nil => exact hr
  | cons b bs =>
    intro c hc
    cases hc
    exact hs b (h b List.mem_cons_self)

end Blanks

variable {t v : List Char} {p : String × String} {ps : List (String × String)}

theorem quotes_escape (v : List Char) : Quotes (v.flatMap escapeLabel) v := by
  induction v with
  | nil => exact .nil
  | cons c v ih =>
    rw [List.flatMap_cons]
    by_cases hn : c = '\n'
    · simpa [escapeLabel, hn] using Quotes.feed ih
    · by_cases hq : c = '\\' ∨ c = '"'
      · simpa [escapeLabel, hn, hq] using Quotes.mark hq ih
      · obtain ⟨hslash, hquote⟩ := not_or.1 hq
        simpa [escapeLabel, hn, hslash, hquote] using Quotes.plain ⟨hquote, hslash⟩ ih

theorem Escapes.quotes (h : Escapes t v) : Quotes t v := by
  rw [Escapes] at h
  exact h ▸ quotes_escape v

theorem scanLabelText_append (h : Quotes t v) (rest : List Char) :
    scanLabelText (t ++ '"' :: rest) = some (v, rest) := by
  induction h with
  | nil => rfl
  | plain hc _ ih => simp [scanLabelText, hc, ih]
  | feed _ ih => simp [scanLabelText, unescapeLabel, ih]
  | mark hc _ ih =>
    rcases hc with hc | hc <;> simp [scanLabelText, unescapeLabel, hc, ih]
  | other hc _ ih => simp [scanLabelText, unescapeLabel, hc, ih]

theorem labelName_head? (h : IsName isLabelStart isLabelContinue name) (rest : List Char) :
    ∀ c ∈ (name ++ rest).head?, isSeparator c = false := fun c hc =>
  not_isSeparator (labelName_solid h c (mem_head?_append h.ne_nil hc))

theorem PairText.head? (h : PairText Quotes t p) (rest : List Char) :
    ∀ c ∈ (t ++ rest).head?, isSeparator c = false := by
  obtain ⟨hname, -, -, -⟩ := h
  rw [List.append_assoc]
  exact labelName_head? hname _

theorem scanLabel_append (h : PairText Quotes t p) (rest : List Char) :
    scanLabel (t ++ rest) = .ok (p, rest) := by
  obtain @⟨p, before, after, text, hname, hbefore, hafter, htext⟩ := h
  let body := text ++ '"' :: rest
  let tail := after ++ '"' :: body
  have hequals : ∀ c ∈ ('=' :: tail).head?, isLabelContinue c = false ∧ isSeparator c = false := by
    simp +decide
  have hblank : ∀ c, isSeparator c → isLabelContinue c = false := by
    intro c hc
    rcases isSeparator_iff.1 hc with rfl | rfl <;> rfl
  have hscan : scanName isLabelStart isLabelContinue
      (p.1.toList ++ (before ++ '=' :: tail)) = .ok (p.1.toList, before ++ '=' :: tail) :=
    scanName_append hname (head?_blanks_append hbefore hblank fun c hc => (hequals c hc).1)
  have hskip : skipSeparators (before ++ '=' :: tail) = '=' :: tail :=
    skipSeparators_append hbefore fun c hc => (hequals c hc).2
  have hopen : skipSeparators tail = '"' :: body :=
    skipSeparators_append hafter (by simp +decide)
  have htext' : p.1.toList ++ (before ++ '=' :: (after ++ '"' :: (text ++ ['"']))) ++ rest =
      p.1.toList ++ (before ++ '=' :: tail) := by
    simp [tail, body]
  rw [htext', scanLabel]
  simp [hscan, bind, Except.bind, hskip, hopen, body, scanLabelText_append htext]

theorem scanMoreLabels_of_label {r : List Char} (hs : skipSeparators s = ',' :: r)
    (hl : scanLabel (skipSeparators r) = .ok (p, rest)) :
    scanMoreLabels s = (scanMoreLabels rest).map fun q => (p :: q.1, q.2) := by
  rw [scanMoreLabels]
  split
  · next r' hr =>
    rw [hs, List.cons.injEq] at hr
    obtain ⟨-, rfl⟩ := hr
    split
    · next hl' =>
      rw [hl] at hl'
      cases hl'
      cases scanMoreLabels rest <;> rfl
    · next hl' =>
      rw [hl] at hl'
      cases hl'
  · next hne => exact absurd hs (hne r)

def EndsLabels (s : List Char) : Prop :=
  ∀ c ∈ s.head?, isLabelStart c = false

theorem scanLabel_of_endsLabels (h : EndsLabels s) : scanLabel s = .error ⟨false, .name, s⟩ := by
  cases s with
  | nil => rfl
  | cons c r =>
    have hc : isLabelStart c = false := h c rfl
    simp [scanLabel, scanName, hc, bind, Except.bind]

theorem scanMoreLabels_of_comma {r : List Char} (hs : skipSeparators s = ',' :: r)
    (hr : EndsLabels (skipSeparators r)) : scanMoreLabels s = .ok ([], s) := by
  have hl := scanLabel_of_endsLabels hr
  rw [scanMoreLabels]
  split
  · next r' hr' =>
    rw [hs, List.cons.injEq] at hr'
    obtain ⟨-, rfl⟩ := hr'
    split
    · next hl' => rw [hl] at hl'; cases hl'
    · next stop hl' => rw [hl] at hl'; cases hl'; rfl
  · rfl

theorem scanMoreLabels_of_ne (hs : ∀ r, skipSeparators s ≠ ',' :: r) :
    scanMoreLabels s = .ok ([], s) := by
  rw [scanMoreLabels]
  split
  · next r hr => exact absurd hr (hs r)
  · rfl

theorem scanMoreLabels_append (h : FurtherText Quotes t ps)
    (hend : scanMoreLabels rest = .ok ([], rest)) :
    scanMoreLabels (t ++ rest) = .ok (ps, rest) := by
  induction h with
  | nil => exact hend
  | @cons p ps before after pair more hbefore hafter hp hps ih =>
    have htext : before ++ ',' :: (after ++ (pair ++ more)) ++ rest =
        before ++ ',' :: (after ++ (pair ++ (more ++ rest))) := by
      simp
    have hskip : skipSeparators (before ++ ',' :: (after ++ (pair ++ (more ++ rest)))) =
        ',' :: (after ++ (pair ++ (more ++ rest))) :=
      skipSeparators_append hbefore (by simp +decide)
    have hlabel : scanLabel (skipSeparators (after ++ (pair ++ (more ++ rest)))) =
        .ok (p, more ++ rest) := by
      rw [skipSeparators_append hafter (hp.head? _), scanLabel_append hp]
    rw [htext, scanMoreLabels_of_label hskip hlabel, ih]
    rfl

def closing (comma rest : List Char) : List Char := comma ++ '\x7d' :: rest

theorem head?_closing {comma : List Char} (h : CommaText comma) (rest : List Char) :
    ∀ c ∈ (closing comma rest).head?, c = ',' ∨ c = '\x7d' := by
  cases h with
  | absent => simp [closing]
  | comma => simp [closing]

theorem skipSeparators_closing {comma blanks : List Char} (hb : Blanks blanks)
    (h : CommaText comma) (rest : List Char) :
    skipSeparators (blanks ++ closing comma rest) = closing comma rest := by
  refine skipSeparators_append hb fun c hc => ?_
  rcases head?_closing h rest c hc with rfl | rfl <;> rfl

theorem scanMoreLabels_closing {comma blanks : List Char} (hb : Blanks blanks)
    (h : CommaText comma) (rest : List Char) :
    scanMoreLabels (blanks ++ closing comma rest) = .ok ([], blanks ++ closing comma rest) := by
  have hskip := skipSeparators_closing hb h rest
  cases h with
  | absent =>
    refine scanMoreLabels_of_ne fun r hr => ?_
    rw [hskip] at hr
    cases hr
  | @comma after hafter =>
    refine scanMoreLabels_of_comma hskip ?_
    have hclose : skipSeparators (after ++ '\x7d' :: rest) = '\x7d' :: rest :=
      skipSeparators_append hafter (by simp +decide)
    rw [List.append_eq, hclose]
    simp +decide [EndsLabels]

theorem scanLabels_append (h : PairsText Quotes t (p :: ps))
    (hend : scanMoreLabels rest = .ok ([], rest)) :
    scanLabels (t ++ rest) = .ok (p :: ps, rest) := by
  cases h with
  | cons hp hps =>
    rw [List.append_assoc, scanLabels, scanLabel_append hp]
    simp [scanMoreLabels_append hps hend, bind, Except.bind]

theorem scanLabels_closing {comma : List Char} (h : CommaText comma) (rest : List Char) :
    scanLabels (closing comma rest) = .ok ([], closing comma rest) := by
  have hends : EndsLabels (closing comma rest) := by
    intro c hc
    rcases head?_closing h rest c hc with rfl | rfl <;> rfl
  simp [scanLabels, scanLabel_of_endsLabels hends]

theorem scanBlock_of_labels {comma left : List Char}
    (hl : scanLabels (skipSeparators s) = .ok (ps, left))
    (hleft : skipSeparators left = closing comma rest) (h : CommaText comma) :
    scanBlock ('\x7b' :: s) = .ok (ps, rest) := by
  cases h with
  | absent => simp [scanBlock, hl, hleft, closing, bind, Except.bind]
  | @comma after hafter =>
    have hclose : skipSeparators (after ++ '\x7d' :: rest) = '\x7d' :: rest :=
      skipSeparators_append hafter (by simp +decide)
    simp [scanBlock, hl, hleft, closing, bind, Except.bind, hclose]

theorem scanBlock_append (h : BlockText Quotes t ps) (rest : List Char) :
    scanBlock (t ++ rest) = .ok (ps, rest) := by
  obtain @⟨ps, before, pairs, after, comma, hbefore, hpairs, hafter, hcomma⟩ := h
  have htext : '\x7b' :: (before ++ (pairs ++ (after ++ (comma ++ ['\x7d'])))) ++ rest =
      '\x7b' :: (before ++ (pairs ++ (after ++ closing comma rest))) := by
    simp [closing]
  rw [htext]
  -- Without labels nothing tells the blanks before them from those after.
  cases hpairs with
  | nil =>
    have hblanks : Blanks (before ++ after) := fun c hc =>
      (List.mem_append.1 hc).elim (hbefore c) (hafter c)
    have hskip := skipSeparators_closing hblanks hcomma rest
    rw [List.append_assoc] at hskip
    refine scanBlock_of_labels ?_ (skipSeparators_closing blanks_nil hcomma rest) hcomma
    rw [List.nil_append, hskip, scanLabels_closing hcomma]
    rfl
  | @cons p ps pair more hp hps =>
    have hhead : ∀ c ∈ ((pair ++ more) ++ (after ++ closing comma rest)).head?,
        isSeparator c = false := by
      rw [List.append_assoc]
      exact hp.head? _
    refine scanBlock_of_labels ?_ (skipSeparators_closing hafter hcomma rest) hcomma
    rw [skipSeparators_append hbefore hhead,
      scanLabels_append (.cons hp hps) (scanMoreLabels_closing hafter hcomma rest)]

variable {head token stamp numeral : List Char} {x : Float}

theorem BlockText.cons (h : BlockText Quotes t ps) : ∃ r, t = '\x7b' :: r := by
  obtain ⟨-, -, -, -⟩ := h
  exact ⟨_, rfl⟩

def BeginsValue (s : List Char) : Prop := ∀ c ∈ s.head?, isSeparator c = false ∧ c ≠ '\x7b'

def scanGap (block : Option (List (String × String))) (s : List Char) : Except Stop (List Char) :=
  match block with
  | some _ => .ok (skipSeparators s)
  | none => scanSeparators s

theorem scanSample_eq (s : List Char) : scanSample s = (do
    let (name, s) ← scanName isNameStart isNameContinue s
    let (block, s) ← scanOptionalBlock s
    let s ← scanGap block s
    let (x, s) ← scanValue s
    .ok (.sample ⟨String.ofList name, block.getD [], x, (scanTimestamp s).1⟩,
      skipSeparators (scanTimestamp s).2)) := by
  unfold scanSample
  refine bind_congr fun ⟨name, s⟩ => bind_congr fun ⟨block, s⟩ => ?_
  cases block <;> rfl

theorem scanOptionalBlock_append (h : HeadText Quotes head ps) (hr : BeginsValue rest) :
    ∃ block left, scanOptionalBlock (head ++ rest) = .ok (block, left) ∧ block.getD [] = ps ∧
      scanGap block left = .ok rest := by
  have hsep : ∀ c ∈ rest.head?, isSeparator c = false := fun c hc => (hr c hc).1
  cases h with
  | bare hb hne =>
    have hblock : scanBlock rest = .error ⟨false, .quote, rest⟩ := by
      cases rest with
      | nil => rfl
      | cons c r => simp [scanBlock, (hr c rfl).2]
    refine ⟨none, head ++ rest, ?_, rfl, scanSeparators_append hb hne hsep⟩
    rw [scanOptionalBlock, skipSeparators_append hb hsep, hblock]
    rfl
  | @block ps before block after hbefore hblock hafter =>
    have htext : before ++ (block ++ after) ++ rest = before ++ (block ++ (after ++ rest)) := by
      simp
    have hskip : skipSeparators (before ++ (block ++ (after ++ rest))) =
        block ++ (after ++ rest) := by
      obtain ⟨r, rfl⟩ := hblock.cons
      exact skipSeparators_append hbefore (by simp +decide)
    refine ⟨some ps, after ++ rest, ?_, rfl, congrArg _ (skipSeparators_append hafter hsep)⟩
    rw [htext, scanOptionalBlock, hskip, scanBlock_append hblock]

theorem token_solid {x : Float} {token : List Char} (h : Decimal.readFloat token = some x) :
    token ≠ [] ∧ ∀ c ∈ token, Text.isBlank c = false ∧ c ≠ '\x7b' := by
  obtain ⟨hne, hmarks⟩ := Decimal.isMark_of_readFloat h
  refine ⟨hne, fun c hc => ⟨Decimal.not_isBlank_of_isMark (hmarks c hc), ?_⟩⟩
  rintro rfl
  have hmark := hmarks _ hc
  simp +decide at hmark

theorem beginsValue_token (h : Decimal.readFloat token = some x) (rest : List Char) :
    BeginsValue (token ++ rest) := by
  obtain ⟨hne, hsolid⟩ := token_solid h
  intro c hc
  obtain ⟨hblank, hbrace⟩ := hsolid c (mem_head?_append hne hc)
  exact ⟨not_isSeparator hblank, hbrace⟩

theorem scanValue_append (h : Decimal.readFloat token = some x)
    (hr : ∀ c ∈ rest.head?, isSeparator c) : scanValue (token ++ rest) = .ok (x, rest) := by
  obtain ⟨hne, hsolid⟩ := token_solid h
  have hs : ∀ c ∈ token, (!isSeparator c) = true := fun c hc => by
    simp [not_isSeparator (hsolid c hc).1]
  have hstop : ∀ c ∈ rest.head?, (!isSeparator c) = false := fun c hc => by
    simp [hr c hc]
  simp only [scanValue, Text.takeWhile_stop hs hstop, Text.dropWhile_stop hs hstop, if_neg hne, h]

theorem isNameContinue_of_isSeparator {c : Char} (h : isSeparator c) :
    isNameContinue c = false := by
  rcases isSeparator_iff.1 h with rfl | rfl <;> rfl

theorem HeadText.head? (h : HeadText Quotes head ps) (rest : List Char) :
    ∀ c ∈ (head ++ rest).head?, isNameContinue c = false := by
  cases h with
  | bare hb hne =>
    exact fun c hc => isNameContinue_of_isSeparator (hb c (mem_head?_append hne hc))
  | block hbefore hblock _ =>
    obtain ⟨r, rfl⟩ := hblock.cons
    rw [List.append_assoc]
    exact head?_blanks_append hbefore (fun c => isNameContinue_of_isSeparator) (by simp +decide)

theorem scanSample_append (hname : IsName isNameStart isNameContinue name)
    (hhead : HeadText Quotes head ps) (hreads : Decimal.readFloat token = some x)
    (hr : ∀ c ∈ rest.head?, isSeparator c) :
    scanSample (name ++ (head ++ (token ++ rest))) =
      .ok (.sample ⟨String.ofList name, ps, x, (scanTimestamp rest).1⟩,
        skipSeparators (scanTimestamp rest).2) := by
  have hvalue := scanValue_append hreads hr
  obtain ⟨block, left, hblock, rfl, hgap⟩ :=
    scanOptionalBlock_append hhead (beginsValue_token hreads rest)
  have hscan := scanName_append hname (hhead.head? (token ++ rest))
  simp [scanSample_eq, hscan, hblock, hgap, hvalue, bind, Except.bind]

theorem scanTimestamp_append {t : Int} {blanks : List Char} (h : Blanks blanks)
    (hne : blanks ≠ []) (hn : Decimal.IsInt64 numeral t)
    (hr : ∀ c ∈ rest.head?, c.isDigit = false) :
    scanTimestamp (blanks ++ (numeral ++ rest)) = (some t, rest) := by
  have hhead : ∀ c ∈ (numeral ++ rest).head?, isSeparator c = false := fun c hc =>
    not_isSeparator (hn.solid c (mem_head?_append hn.ne_nil hc))
  simp only [scanTimestamp, scanSeparators_append h hne hhead, Decimal.scanInt64_append hn hr]

theorem scanTimestamp_stampText {t : Option Int} (h : StampText stamp t) :
    scanTimestamp stamp = (t, []) := by
  cases h with
  | absent => rfl
  | stamp hb hne hn =>
    have hend : ∀ c ∈ ([] : List Char).head?, c.isDigit = false := by simp
    have hscan := scanTimestamp_append hb hne hn hend
    rwa [List.append_nil] at hscan

theorem StampText.head? {t : Option Int} (h : StampText stamp t)
    (hr : ∀ c ∈ rest.head?, isSeparator c) : ∀ c ∈ (stamp ++ rest).head?, isSeparator c := by
  cases h with
  | absent => exact hr
  | stamp hb hne hn =>
    rw [List.append_assoc]
    exact fun c hc => hb c (mem_head?_append hne hc)

theorem scanSample_sampleText {s : Sample} (h : SampleText Quotes t s) :
    scanSample t = .ok (.sample s, []) := by
  obtain @⟨⟨name, ps, x, time⟩, head, token, stamp, hname, hhead, -, hreads, hstamp⟩ := h
  have hends : ∀ c ∈ stamp.head?, isSeparator c := by
    have hnone : ∀ c ∈ ([] : List Char).head?, isSeparator c := by simp
    simpa using hstamp.head? hnone
  rw [scanSample_append hname hhead hreads hends, scanTimestamp_stampText hstamp]
  simp [skipSeparators]

section Whole

variable {quotes quotes' : List Char → List Char → Prop} {s : Sample}

theorem SampleText.begins (h : SampleText quotes t s) :
    ∃ c r, t = c :: r ∧ isNameStart c ∧ Text.isBlank c = false := by
  obtain ⟨hname, -, -, -, -⟩ := h
  obtain ⟨c, r, hr, hc, hblank⟩ := hname.begins
  rw [hr]
  exact ⟨c, _, rfl, hc, hblank⟩

theorem SampleText.ends (h : SampleText quotes t s) : ∀ c ∈ t.getLast?, Text.isBlank c = false := by
  obtain @⟨⟨name, ps, x, time⟩, head, token, stamp, -, -, -, hreads, hstamp⟩ := h
  obtain ⟨hne, hsolid⟩ := token_solid hreads
  intro c hc
  cases hstamp with
  | absent =>
    rw [List.append_nil, ← List.append_assoc] at hc
    exact (hsolid c (mem_getLast?_append hne hc)).1
  | stamp _ _ hn =>
    rw [← List.append_assoc, ← List.append_assoc, ← List.append_assoc] at hc
    exact hn.solid c (mem_getLast?_append hn.ne_nil hc)

theorem SampleText.trim_append {before after : List Char} (h : SampleText quotes t s)
    (hbefore : Blanks before) (hafter : Blanks after) :
    Text.trim (before ++ (t ++ after)) = t := by
  obtain ⟨c, r, hr, -, hblank⟩ := h.begins
  have hleft : Text.trimLeft (before ++ (t ++ after)) = t ++ after :=
    Text.dropWhile_stop (fun c hc => isBlank_of_isSeparator (hbefore c hc))
      (by simpa [hr] using hblank)
  have hafter' : ∀ c ∈ after.reverse, Text.isBlank c := fun c hc =>
    isBlank_of_isSeparator (hafter c (List.mem_reverse.1 hc))
  have hright : (t ++ after).reverse.dropWhile Text.isBlank = t.reverse := by
    rw [List.reverse_append]
    exact Text.dropWhile_stop hafter' (by rw [List.head?_reverse]; exact h.ends)
  rw [Text.trim, hleft, Text.trimRight, hright, List.reverse_reverse]

theorem SampleText.trim (h : SampleText quotes t s) : Text.trim t = t := by
  simpa using h.trim_append blanks_nil blanks_nil

theorem PairText.mono (hq : ∀ t v, quotes t v → quotes' t v) (h : PairText quotes t p) :
    PairText quotes' t p := by
  obtain ⟨hname, hbefore, hafter, htext⟩ := h
  exact .mk hname hbefore hafter (hq _ _ htext)

theorem FurtherText.mono (hq : ∀ t v, quotes t v → quotes' t v) (h : FurtherText quotes t ps) :
    FurtherText quotes' t ps := by
  induction h with
  | nil => exact .nil
  | cons hbefore hafter hp _ ih => exact .cons hbefore hafter (hp.mono hq) ih

theorem BlockText.mono (hq : ∀ t v, quotes t v → quotes' t v) (h : BlockText quotes t ps) :
    BlockText quotes' t ps := by
  obtain ⟨hbefore, hpairs, hafter, hcomma⟩ := h
  refine .mk hbefore ?_ hafter hcomma
  cases hpairs with
  | nil => exact .nil
  | cons hp hps => exact .cons (hp.mono hq) (hps.mono hq)

theorem SampleText.mono (hq : ∀ t v, quotes t v → quotes' t v) (h : SampleText quotes t s) :
    SampleText quotes' t s := by
  obtain @⟨⟨name, ps, x, time⟩, head, token, stamp, hname, hhead, htoken, hreads, hstamp⟩ := h
  refine .mk hname ?_ htoken hreads hstamp
  cases hhead with
  | bare hb hne => exact .bare hb hne
  | block hbefore hblock hafter => exact .block hbefore (hblock.mono hq) hafter

end Whole

theorem lexLine_of_scanLine {line : List Char} {l : Line} (ht : Text.trim line = s) (hs : s ≠ [])
    (h : scanLine s = .ok (l, [])) : lexLine line = .ok l := by
  simp [lexLine, ht, hs, h]

theorem scanLine_of_isNameStart {c : Char} (h : isNameStart c) (r : List Char) :
    scanLine (c :: r) = scanSample (c :: r) := by
  have hhash : c ≠ '#' := by
    intro heq
    rw [heq] at h
    revert h
    decide
  simp [scanLine, hhash]

theorem lexLine_of_sampleText {line : List Char} {s : Sample} (h : SampleText Quotes t s)
    (ht : Text.trim line = t) : lexLine line = .ok (.sample s) := by
  have hscan := scanSample_sampleText h
  obtain ⟨c, r, rfl, hc, -⟩ := h.begins
  exact lexLine_of_scanLine ht (List.cons_ne_nil c r) ((scanLine_of_isNameStart hc r).trans hscan)

end Testbed.Metrics
