import Testbed.Proofs.Grammar

/-!
The lexer reads every written line back. A written sample line is one of those that the grammar
gives for its sample.
-/
namespace Testbed.Metrics

variable {name s : List Char}

structure Sample.WellFormed (s : Sample) : Prop where
  name : IsName isNameStart isNameContinue s.name.toList
  labels : ∀ p ∈ s.labels, IsName isLabelStart isLabelContinue p.1.toList
  timestamp : ∀ t ∈ s.timestamp, Decimal.inInt64 t

theorem pairText_labelText {p : String × String}
    (h : IsName isLabelStart isLabelContinue p.1.toList) : PairText Escapes (labelText p) p :=
  .mk h blanks_nil blanks_nil rfl

theorem furtherText_labelText {ps : List (String × String)}
    (h : ∀ p ∈ ps, IsName isLabelStart isLabelContinue p.1.toList) :
    FurtherText Escapes (ps.flatMap fun q => ',' :: labelText q) ps := by
  induction ps with
  | nil => exact .nil
  | cons p ps ih =>
    obtain ⟨hp, hps⟩ := List.forall_mem_cons.1 h
    exact .cons blanks_nil blanks_nil (pairText_labelText hp) (ih hps)

theorem headText_blockText {ps : List (String × String)}
    (h : ∀ p ∈ ps, IsName isLabelStart isLabelContinue p.1.toList) :
    HeadText Escapes (blockText ps ++ [' ']) ps := by
  cases ps with
  | nil => exact .bare blanks_space (List.cons_ne_nil _ _)
  | cons p ps =>
    obtain ⟨hp, hps⟩ := List.forall_mem_cons.1 h
    have hblock : BlockText Escapes (blockText (p :: ps)) (p :: ps) :=
      .mk blanks_nil (.cons (pairText_labelText hp) (furtherText_labelText hps)) blanks_nil .absent
    exact .block blanks_nil hblock blanks_space

theorem stampText_timestampText {t : Option Int} (h : ∀ i ∈ t, Decimal.inInt64 i) :
    StampText (timestampText t) t := by
  cases t with
  | none => exact .absent
  | some i =>
    exact .stamp blanks_space (List.cons_ne_nil _ _) (Decimal.isInt64_textInt (h i rfl))

theorem Written.sampleText {w : Written} (h : w.sample.WellFormed) :
    SampleText Escapes w.text w.sample := by
  have htoken : ∀ c ∈ w.token, isSeparator c = false := fun c hc =>
    not_isSeparator ((token_solid w.reads).2 c hc).1
  have htext : w.text = w.sample.name.toList ++ (blockText w.sample.labels ++ [' '] ++
      (w.token ++ timestampText w.sample.timestamp)) := by
    simp [Written.text]
  rw [htext]
  exact .mk h.name (headText_blockText h.labels) htoken w.reads (stampText_timestampText h.timestamp)

theorem lexLine_text {w : Written} (h : w.sample.WellFormed) :
    lexLine w.text = .ok (.sample w.sample) := by
  have htext := Written.sampleText h
  exact lexLine_of_sampleText (htext.mono fun _ _ => Escapes.quotes) htext.trim

theorem unescapeHelp_escape (text : List Char) : unescapeHelp (text.flatMap escapeHelp) = text := by
  induction text with
  | nil => rfl
  | cons c text ih =>
    rw [List.flatMap_cons]
    by_cases hn : c = '\n'
    · subst hn
      simp [escapeHelp, unescapeHelp, ih]
    · by_cases hslash : c = '\\'
      · subst hslash
        simp [escapeHelp, unescapeHelp, ih]
      · simp [escapeHelp, hn, hslash, unescapeHelp, ih]

theorem scanWord_append (word : String) (rest : List Char) :
    scanWord word (word.toList ++ rest) = some rest := by
  simp [scanWord, ← String.length_toList]

theorem scanComment_help {text : List Char} (h : IsName isNameStart isNameContinue name)
    (ht : ∀ c ∈ text.head?, Text.isBlank c = false) :
    scanComment (' ' :: ("HELP".toList ++ ' ' :: (name ++ ' ' :: text))) =
      .ok (.help (String.ofList name) (String.ofList (unescapeHelp (Text.trimRight text))),
        []) := by
  obtain ⟨c, r, hname, -, hblank⟩ := h.begins
  have hskip : skipSeparators (' ' :: ("HELP".toList ++ ' ' :: (name ++ ' ' :: text))) =
      "HELP".toList ++ ' ' :: (name ++ ' ' :: text) := rfl
  have hsep : scanSeparators (' ' :: (name ++ ' ' :: text)) = .ok (name ++ ' ' :: text) :=
    scanSeparators_space (by simpa [hname] using hblank)
  have hscan : scanName isNameStart isNameContinue (name ++ ' ' :: text) =
      .ok (name, ' ' :: text) :=
    scanName_append h (by simp +decide)
  rw [scanComment, hskip]
  simp only [scanHelp, scanWord_append, hsep, hscan, scanSeparators_space ht, bind, Option.bind,
    Except.toOption]

theorem scanComment_declaration (kind : Kind) (h : IsName isNameStart isNameContinue name) :
    scanComment (' ' :: ("TYPE".toList ++ ' ' :: (name ++ ' ' :: kind.keyword.toList))) =
      .ok (.declaration (String.ofList name) kind, []) := by
  obtain ⟨c, r, hname, -, hblank⟩ := h.begins
  let text := kind.keyword.toList
  have hskip : skipSeparators (' ' :: ("TYPE".toList ++ ' ' :: (name ++ ' ' :: text))) =
      "TYPE".toList ++ ' ' :: (name ++ ' ' :: text) := rfl
  have hhelp : scanHelp ("TYPE".toList ++ ' ' :: (name ++ ' ' :: text)) = none := rfl
  have hsep : scanSeparators (' ' :: (name ++ ' ' :: text)) = .ok (name ++ ' ' :: text) :=
    scanSeparators_space (by simpa [hname] using hblank)
  have hscan : scanName isNameStart isNameContinue (name ++ ' ' :: text) =
      .ok (name, ' ' :: text) :=
    scanName_append h (by simp +decide)
  have hword : scanSeparators (' ' :: text) = .ok text := by cases kind <;> rfl
  have htake : text.takeWhile Char.isAlpha = text := by cases kind <;> decide
  have hdrop : text.dropWhile Char.isAlpha = [] := by cases kind <;> decide
  have hne : text ≠ [] := by cases kind <;> decide
  have hkeyword : Kind.ofKeyword? (String.ofList text) = some kind := by
    rw [String.ofList_toList, Kind.ofKeyword?_keyword]
  have hend : skipSeparators [] = [] := rfl
  rw [scanComment, hskip]
  simp only [hhelp, scanDeclaration, scanWord_append, hsep, hscan, hword, htake, hdrop, if_neg hne,
    hkeyword, hend, bind, Option.bind, Except.toOption, Option.getD]

theorem escapeHelp_solid {c : Char} (h : Text.isBlank c = false) :
    escapeHelp c ≠ [] ∧ ∀ d ∈ escapeHelp c, Text.isBlank d = false := by
  have hn : c ≠ '\n' := by
    rintro rfl
    revert h
    decide
  by_cases hslash : c = '\\'
  · simp [escapeHelp, hslash, Text.isBlank]
  · simp [escapeHelp, hn, hslash, h]

theorem head?_escapeHelp {text : List Char} (h : ∀ c ∈ text.head?, Text.isBlank c = false) :
    ∀ c ∈ (text.flatMap escapeHelp).head?, Text.isBlank c = false := by
  cases text with
  | nil => simp
  | cons d text =>
    obtain ⟨hne, hsolid⟩ := escapeHelp_solid (h d rfl)
    rw [List.flatMap_cons]
    exact fun c hc => hsolid c (mem_head?_append hne hc)

theorem getLast?_escapeHelp {text : List Char} (h : ∀ c ∈ text.getLast?, Text.isBlank c = false) :
    ∀ c ∈ (text.flatMap escapeHelp).getLast?, Text.isBlank c = false := by
  rcases List.eq_nil_or_concat text with rfl | ⟨init, d, rfl⟩
  · simp
  · obtain ⟨hne, hsolid⟩ := escapeHelp_solid (h d (by simp))
    rw [List.concat_eq_append, List.flatMap_append, List.flatMap_singleton]
    exact fun c hc => hsolid c (mem_getLast?_append hne hc)

theorem scanLine_hash (line : List Char) : scanLine ('#' :: line) = scanComment line := rfl

theorem trim_of_hash {line : List Char}
    (hr : ∀ c ∈ ('#' :: line).getLast?, Text.isBlank c = false) :
    Text.trim ('#' :: line) = '#' :: line := by
  refine Text.trim_eq_self (fun c hc => ?_) hr
  cases hc
  rfl

theorem helpText_eq (name text : String) : helpText name text =
    '#' :: ' ' :: ("HELP".toList ++
      ' ' :: (name.toList ++ ' ' :: text.toList.flatMap escapeHelp)) := by
  have hword : "# HELP ".toList = '#' :: ' ' :: ("HELP".toList ++ [' ']) := rfl
  unfold helpText
  rw [hword]
  simp only [List.append_assoc, List.cons_append, List.nil_append]

theorem declarationText_eq (name : String) (kind : Kind) : declarationText name kind =
    '#' :: ' ' :: ("TYPE".toList ++ ' ' :: (name.toList ++ ' ' :: kind.keyword.toList)) := by
  have hword : "# TYPE ".toList = '#' :: ' ' :: ("TYPE".toList ++ [' ']) := rfl
  unfold declarationText
  rw [hword]
  simp only [List.append_assoc, List.cons_append, List.nil_append]

theorem scanComment_bareHelp (h : IsName isNameStart isNameContinue name) :
    scanComment (' ' :: ("HELP".toList ++ ' ' :: name)) =
      .ok (.help (String.ofList name) "", []) := by
  obtain ⟨c, r, hname, -, hblank⟩ := h.begins
  have hskip : skipSeparators (' ' :: ("HELP".toList ++ ' ' :: name)) =
      "HELP".toList ++ ' ' :: name := rfl
  have hsep : scanSeparators (' ' :: name) = .ok name :=
    scanSeparators_space (by simpa [hname] using hblank)
  have hscan : scanName isNameStart isNameContinue name = .ok (name, []) := by
    have hnil : ∀ c ∈ ([] : List Char).head?, isNameContinue c = false := by simp
    simpa using scanName_append h hnil
  have hend : scanSeparators [] = .error ⟨false, .blank, []⟩ := rfl
  rw [scanComment, hskip]
  simp only [scanHelp, scanWord_append, hsep, hscan, hend, bind, Option.bind, Except.toOption]

theorem trim_bareHelp (hne : name ≠ []) (h : ∀ c ∈ name, Text.isBlank c = false) :
    Text.trim ('#' :: ' ' :: ("HELP".toList ++ ' ' :: (name ++ [' ']))) =
      '#' :: ' ' :: ("HELP".toList ++ ' ' :: name) := by
  let line := '#' :: ' ' :: ("HELP".toList ++ ' ' :: name)
  have hends : ∀ c ∈ line.getLast?, Text.isBlank c = false := by
    have hline : line = ('#' :: ' ' :: ("HELP".toList ++ [' '])) ++ name := by simp [line]
    rw [hline]
    exact fun c hc => h c (mem_getLast?_append hne hc)
  have hconcat : '#' :: ' ' :: ("HELP".toList ++ ' ' :: (name ++ [' '])) = line ++ [' '] := by
    simp [line]
  have hleft : Text.trimLeft (line ++ [' ']) = line ++ [' '] := rfl
  have hspace : Text.isBlank ' ' = true := rfl
  rw [hconcat, Text.trim, hleft, Text.trimRight_concat hspace, Text.trimRight_eq_self hends]

theorem lexLine_helpText {name text : String} (h : IsName isNameStart isNameContinue name.toList)
    (ht : IsTrimmed text) : lexLine (helpText name text) = .ok (.help name text) := by
  have hsolid := metricName_solid h
  have hne : name.toList ≠ [] := by
    obtain ⟨c, r, hname, -⟩ := h
    simp [hname]
  -- Without a text the line ends in a blank, which is trimmed before it is scanned.
  by_cases hempty : text.toList = []
  · have htext : text = "" := by rw [← String.toList_inj, hempty]; rfl
    have htrim := trim_bareHelp hne hsolid
    have hscan := scanComment_bareHelp h
    rw [String.ofList_toList, ← scanLine_hash] at hscan
    have hline : helpText name text =
        '#' :: ' ' :: ("HELP".toList ++ ' ' :: (name.toList ++ [' '])) := by
      rw [helpText_eq, hempty, List.flatMap_nil]
    rw [hline, htext]
    exact lexLine_of_scanLine htrim (List.cons_ne_nil _ _) hscan
  · have hescaped : text.toList.flatMap escapeHelp ≠ [] := by
      intro he
      have hnil := unescapeHelp_escape text.toList
      rw [he, unescapeHelp] at hnil
      exact hempty hnil.symm
    have hends : ∀ c ∈ (helpText name text).getLast?, Text.isBlank c = false := by
      unfold helpText
      rw [List.append_cons]
      intro c hc
      rw [List.getLast?_append, Option.or_of_isSome (List.getLast?_isSome.2 hescaped)] at hc
      exact getLast?_escapeHelp ht.2 c hc
    have hscan := scanComment_help h (head?_escapeHelp ht.1)
    rw [Text.trimRight_eq_self (getLast?_escapeHelp ht.2), unescapeHelp_escape,
      String.ofList_toList, String.ofList_toList, ← scanLine_hash] at hscan
    rw [helpText_eq] at hends ⊢
    exact lexLine_of_scanLine (trim_of_hash hends) (List.cons_ne_nil _ _) hscan

theorem keyword_solid (kind : Kind) :
    kind.keyword.toList ≠ [] ∧ ∀ c ∈ kind.keyword.toList, Text.isBlank c = false := by
  have hsolid : kind.keyword.toList.all (fun c => !Text.isBlank c) := by cases kind <;> decide
  have hne : kind.keyword.toList ≠ [] := by cases kind <;> decide
  exact ⟨hne, fun c hc => by simpa using List.all_eq_true.1 hsolid c hc⟩

theorem declarationText_ends (name : String) (kind : Kind) :
    ∀ c ∈ (declarationText name kind).getLast?, Text.isBlank c = false := by
  obtain ⟨hne, hsolid⟩ := keyword_solid kind
  unfold declarationText
  rw [List.append_cons]
  exact fun c hc => hsolid c (mem_getLast?_append hne hc)

theorem lexLine_declarationText {name : String} (kind : Kind)
    (h : IsName isNameStart isNameContinue name.toList) :
    lexLine (declarationText name kind) = .ok (.declaration name kind) := by
  have hends := declarationText_ends name kind
  have hscan := scanComment_declaration kind h
  rw [String.ofList_toList] at hscan
  rw [declarationText_eq] at hends ⊢
  rw [← scanLine_hash] at hscan
  exact lexLine_of_scanLine (trim_of_hash hends) (List.cons_ne_nil _ _) hscan

/-- A line that is one line of a text when a line feed ends it. -/
structure Stands (line : List Char) : Prop where
  whole : '\n' ∉ line
  ends : line.getLast? ≠ some '\r'

theorem stands_of_ends {line : List Char} (hn : '\n' ∉ line)
    (he : ∀ c ∈ line.getLast?, Text.isBlank c = false) : Stands line :=
  ⟨hn, fun hr => nomatch he _ hr⟩

theorem not_mem_of_solid {s : List Char} (h : ∀ c ∈ s, Text.isBlank c = false) : '\n' ∉ s :=
  fun hn => nomatch h _ hn

theorem not_mem_flatMap {f : Char → List Char} (h : ∀ c, '\n' ∉ f c) (text : List Char) :
    '\n' ∉ text.flatMap f := by
  intro hn
  obtain ⟨c, -, hc⟩ := List.mem_flatMap.1 hn
  exact h c hc

theorem not_mem_escapeLabel (c : Char) : '\n' ∉ escapeLabel c := by
  by_cases h : c = '\n'
  · simp [escapeLabel, h]
  · by_cases hq : c = '\\' ∨ c = '"' <;> simp [escapeLabel, h, hq, Ne.symm h]

theorem not_mem_escapeHelp (c : Char) : '\n' ∉ escapeHelp c := by
  by_cases h : c = '\n'
  · simp [escapeHelp, h]
  · by_cases hslash : c = '\\' <;> simp [escapeHelp, h, hslash, Ne.symm h]

theorem not_mem_labelText {p : String × String}
    (h : IsName isLabelStart isLabelContinue p.1.toList) : '\n' ∉ labelText p := by
  have hname := not_mem_of_solid (labelName_solid h)
  have htext := not_mem_flatMap not_mem_escapeLabel p.2.toList
  simp [labelText, hname, -List.mem_flatMap, htext]

theorem not_mem_blockText {ps : List (String × String)}
    (h : ∀ p ∈ ps, IsName isLabelStart isLabelContinue p.1.toList) : '\n' ∉ blockText ps := by
  cases ps with
  | nil => simp [blockText]
  | cons p ps =>
    obtain ⟨hp, hps⟩ := List.forall_mem_cons.1 h
    have hrest : '\n' ∉ ps.flatMap fun q => ',' :: labelText q := by
      intro hn
      obtain ⟨q, hq, hc⟩ := List.mem_flatMap.1 hn
      rcases List.mem_cons.1 hc with hc | hc
      · exact nomatch hc
      · exact not_mem_labelText (hps q hq) hc
    simp [blockText, not_mem_labelText hp, -List.mem_flatMap, hrest]

theorem not_mem_timestampText {t : Option Int} (h : ∀ i ∈ t, Decimal.inInt64 i) :
    '\n' ∉ timestampText t := by
  cases t with
  | none => simp [timestampText]
  | some i =>
    simp [timestampText, not_mem_of_solid (Decimal.isInt64_textInt (h i rfl)).solid]

theorem Written.text_stands {w : Written} (h : w.sample.WellFormed) : Stands w.text := by
  have hname := not_mem_of_solid (metricName_solid h.name)
  have hblock := not_mem_blockText h.labels
  have htoken := not_mem_of_solid fun c hc => ((token_solid w.reads).2 c hc).1
  have htimestamp := not_mem_timestampText h.timestamp
  refine stands_of_ends ?_ (Written.sampleText h).ends
  simp [Written.text, hname, hblock, htoken, htimestamp]

theorem declarationText_stands {name : String} (kind : Kind)
    (h : IsName isNameStart isNameContinue name.toList) : Stands (declarationText name kind) := by
  have hname := not_mem_of_solid (metricName_solid h)
  have hkeyword := not_mem_of_solid (keyword_solid kind).2
  refine stands_of_ends ?_ (declarationText_ends name kind)
  rw [declarationText_eq]
  simp [hname, hkeyword]

theorem helpText_stands {name text : String} (h : IsName isNameStart isNameContinue name.toList)
    (ht : IsTrimmed text) : Stands (helpText name text) := by
  have hname := not_mem_of_solid (metricName_solid h)
  have htext := not_mem_flatMap not_mem_escapeHelp text.toList
  have hwhole : '\n' ∉ helpText name text := by
    rw [helpText_eq]
    simp [hname, -List.mem_flatMap, htext]
  refine ⟨hwhole, fun hr => ?_⟩
  unfold helpText at hr
  by_cases hempty : text.toList.flatMap escapeHelp = []
  · rw [hempty, List.getLast?_append] at hr
    cases hr
  · rw [List.append_cons, List.getLast?_append,
      Option.or_of_isSome (List.getLast?_isSome.2 hempty)] at hr
    exact nomatch getLast?_escapeHelp ht.2 _ hr

end Testbed.Metrics
