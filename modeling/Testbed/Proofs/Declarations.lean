import Testbed.Proofs.Recognition

/-!
Lines that declare the kind of a family. The token in the place of the keyword decides what becomes
of such a line: a keyword alone declares, letters that are no keyword or go on otherwise are an
error, and a token that begins with anything but a letter makes the line a comment.
-/
namespace Testbed.Metrics

/-- A line with the word, a name and a token, and blanks between them. What follows the token begins
with a blank too. -/
inductive TypeLine : List Char → String → List Char → List Char → Prop
  | mk {name : String} {before gap gap' token after : List Char} (hbefore : Blanks before)
      (hgap : Blanks gap) (hne : gap ≠ []) (hname : IsName isNameStart isNameContinue name.toList)
      (hgap' : Blanks gap') (hne' : gap' ≠ []) (htoken : ∀ c ∈ token, isSeparator c = false)
      (hsome : token ≠ []) (hafter : ∀ c ∈ after.head?, isSeparator c) :
      TypeLine ('#' :: (before ++ ("TYPE".toList ++ (gap ++ (name.toList ++ (gap' ++
        (token ++ after))))))) name token after

def BeginsWord (token : List Char) : Prop := ∃ c ∈ token.head?, c.isAlpha

instance : DecidablePred BeginsWord := fun token =>
  decidable_of_iff (token.head?.any Char.isAlpha) (Option.any_eq_true _ _)

variable {line name token after rest gap gap' : List Char} {k : Kind}

theorem isAlpha_of_ofKeyword? {s : String} (h : Kind.ofKeyword? s = some k) :
    ∀ c ∈ s.toList, c.isAlpha := by
  unfold Kind.ofKeyword? at h
  split at h
  case h_7 => cases h
  all_goals exact List.all_eq_true.1 (by decide)

theorem isAlpha_of_isSeparator {c : Char} (h : isSeparator c) : c.isAlpha = false := by
  rcases isSeparator_iff.1 h with rfl | rfl <;> rfl

def scanKind (name rest : List Char) : Option (Except Stop (Line × List Char)) :=
  let word := rest.takeWhile Char.isAlpha
  if word = [] then none
  else match Kind.ofKeyword? (String.ofList word) with
    | some k => some (.ok (.declaration (String.ofList name) k,
        skipSeparators (rest.dropWhile Char.isAlpha)))
    | none => some (.error ⟨true, .kind, rest⟩)

theorem scanDeclaration_append (hgap : Blanks gap) (hne : gap ≠ [])
    (hname : IsName isNameStart isNameContinue name) (hgap' : Blanks gap') (hne' : gap' ≠ [])
    (hrest : ∀ c ∈ rest.head?, isSeparator c = false) :
    scanDeclaration ("TYPE".toList ++ (gap ++ (name ++ (gap' ++ rest)))) = scanKind name rest := by
  obtain ⟨c, r, hbegins, -, hblank⟩ := hname.begins
  have hsep : scanSeparators (gap ++ (name ++ (gap' ++ rest))) = .ok (name ++ (gap' ++ rest)) :=
    scanSeparators_append hgap hne (by simpa [hbegins] using not_isSeparator hblank)
  have hscan : scanName isNameStart isNameContinue (name ++ (gap' ++ rest)) =
      .ok (name, gap' ++ rest) :=
    scanName_append hname fun c hc =>
      isNameContinue_of_isSeparator (hgap' c (mem_head?_append hne' hc))
  have hsep' : scanSeparators (gap' ++ rest) = .ok rest := scanSeparators_append hgap' hne' hrest
  simp only [scanDeclaration, scanWord_append, hsep, hscan, hsep', bind, Option.bind,
    Except.toOption]
  rfl

theorem scanLine_typeLine {line : List Char} {name : String}
    (h : TypeLine line name token after) :
    scanLine line = (scanKind name.toList (token ++ after)).getD (.ok (.comment, [])) := by
  obtain @⟨name, before, gap, gap', token, after, hbefore, hgap, hne, hname, hgap', hne', htoken,
    hsome, -⟩ := h
  have hrest : ∀ c ∈ (token ++ after).head?, isSeparator c = false := fun c hc =>
    htoken c (mem_head?_append hsome hc)
  let body := "TYPE".toList ++ (gap ++ (name.toList ++ (gap' ++ (token ++ after))))
  have hskip : skipSeparators (before ++ body) = body :=
    skipSeparators_append hbefore (by simp +decide [body])
  have hhelp : scanHelp body = none := rfl
  have hscan : scanDeclaration body = scanKind name.toList (token ++ after) :=
    scanDeclaration_append hgap hne hname hgap' hne' hrest
  rw [scanLine_hash, scanComment, hskip]
  simp only [hhelp, hscan]

theorem scanKind_of_not_beginsWord (h : ¬BeginsWord token) (hsome : token ≠ []) :
    scanKind name (token ++ after) = none := by
  obtain ⟨c, r, rfl⟩ := List.exists_cons_of_ne_nil hsome
  have hc : c.isAlpha = false := Bool.eq_false_iff.2 fun hc => h ⟨c, rfl, hc⟩
  rw [scanKind, List.cons_append, List.takeWhile_cons, hc]
  rfl

theorem takeWhile_ne_nil (h : BeginsWord token) : (token ++ after).takeWhile Char.isAlpha ≠ [] := by
  obtain ⟨c, hc, halpha⟩ := h
  obtain ⟨r, rfl⟩ := List.head?_eq_some_iff.1 hc
  simp [halpha]

theorem keyword_scanned_iff (hafter : ∀ c ∈ after.head?, isSeparator c)
    (hends : ∀ c ∈ (token ++ after).getLast?, Text.isBlank c = false) :
    Kind.ofKeyword? (String.ofList ((token ++ after).takeWhile Char.isAlpha)) = some k ∧
        skipSeparators ((token ++ after).dropWhile Char.isAlpha) = [] ↔
      after = [] ∧ Kind.ofKeyword? (String.ofList token) = some k := by
  have hparts := List.takeWhile_append_dropWhile (p := Char.isAlpha) (l := token ++ after)
  constructor
  · rintro ⟨hk, hskip⟩
    have hblanks : Blanks ((token ++ after).dropWhile Char.isAlpha) :=
      List.dropWhile_eq_nil_iff.1 hskip
    rw [← hparts] at hends
    rw [blanks_eq_nil hblanks hends, List.append_nil] at hparts
    have hnil : after = [] := by
      cases after with
      | nil => rfl
      | cons c r =>
        have hc : c.isAlpha := by
          refine List.mem_takeWhile_imp (l := token ++ c :: r) ?_
          rw [hparts]
          simp
        rw [isAlpha_of_isSeparator (hafter c rfl)] at hc
        cases hc
    refine ⟨hnil, ?_⟩
    rwa [hparts, hnil, List.append_nil] at hk
  · rintro ⟨rfl, hk⟩
    have halpha : ∀ c ∈ token, c.isAlpha := by simpa using isAlpha_of_ofKeyword? hk
    rw [List.append_nil, List.takeWhile_eq_self_iff.2 halpha, List.dropWhile_eq_nil_iff.2 halpha]
    exact ⟨hk, rfl⟩

theorem beginsWord_of_ofKeyword? (hsome : token ≠ [])
    (hk : Kind.ofKeyword? (String.ofList token) = some k) : BeginsWord token := by
  obtain ⟨c, r, rfl⟩ := List.exists_cons_of_ne_nil hsome
  exact ⟨c, rfl, isAlpha_of_ofKeyword? hk c (by simp)⟩

section Lines

variable {line : List Char} {name : String}

theorem TypeLine.ne_nil (h : TypeLine line name token after) : line ≠ [] := by
  obtain ⟨-, -, -, -, -, -, -, -, -⟩ := h
  exact List.cons_ne_nil _ _

theorem TypeLine.token_ne_nil (h : TypeLine line name token after) : token ≠ [] := by
  obtain ⟨-, -, -, -, -, -, -, hsome, -⟩ := h
  exact hsome

theorem TypeLine.after_head? (h : TypeLine line name token after) :
    ∀ c ∈ after.head?, isSeparator c := by
  obtain ⟨-, -, -, -, -, -, -, -, hafter⟩ := h
  exact hafter

theorem TypeLine.getLast? (h : TypeLine line name token after) :
    line.getLast? = (token ++ after).getLast? := by
  obtain @⟨name, before, gap, gap', token, after, -, -, -, -, -, -, -, hsome, -⟩ := h
  have hrest : token ++ after ≠ [] := List.append_ne_nil_of_left_ne_nil hsome after
  have hsplit : '#' :: (before ++ ("TYPE".toList ++ (gap ++ (name.toList ++ (gap' ++
      (token ++ after)))))) =
      ('#' :: (before ++ "TYPE".toList ++ gap ++ name.toList ++ gap')) ++ (token ++ after) := by
    simp
  rw [hsplit, List.getLast?_append, Option.or_of_isSome (List.getLast?_isSome.2 hrest)]

theorem lexLine_eq_comment (h : TypeLine (Text.trim line) name token after)
    (hw : ¬BeginsWord token) : lexLine line = .ok .comment := by
  refine lexLine_of_scanLine rfl h.ne_nil ?_
  rw [scanLine_typeLine h, scanKind_of_not_beginsWord hw h.token_ne_nil]
  rfl

theorem lexLine_of_beginsWord (h : TypeLine (Text.trim line) name token after)
    (hw : BeginsWord token) :
    (∀ k, after = [] ∧ Kind.ofKeyword? (String.ofList token) = some k →
      lexLine line = .ok (.declaration name k)) ∧
    ((¬∃ k, after = [] ∧ Kind.ofKeyword? (String.ofList token) = some k) →
      ∃ e, lexLine line = .error e) := by
  have hends : ∀ c ∈ (token ++ after).getLast?, Text.isBlank c = false := by
    rw [← h.getLast?]
    exact Text.trim_ends line
  have hkeyword := fun k => keyword_scanned_iff (k := k) h.after_head? hends
  have hscan := scanLine_typeLine h
  rw [scanKind, if_neg (takeWhile_ne_nil hw)] at hscan
  constructor
  · intro k hk
    obtain ⟨hword, hskip⟩ := (hkeyword k).2 hk
    rw [hword] at hscan
    refine lexLine_of_scanLine rfl h.ne_nil ?_
    simpa [hskip] using hscan
  · intro hnone
    cases hword : Kind.ofKeyword? (String.ofList ((token ++ after).takeWhile Char.isAlpha)) with
    | none =>
      rw [hword] at hscan
      simp [lexLine, h.ne_nil, hscan]
    | some k =>
      rw [hword] at hscan
      -- a kind was read, so text is left over
      have hskip : skipSeparators ((token ++ after).dropWhile Char.isAlpha) ≠ [] := fun hskip =>
        hnone ⟨k, (hkeyword k).1 ⟨hword, hskip⟩⟩
      obtain ⟨c, r, hleft⟩ := List.exists_cons_of_ne_nil hskip
      simp [lexLine, h.ne_nil, hscan, hleft]

/-- A line with the word, a name and a token declares exactly if the token is a keyword and nothing
follows it. Otherwise it is an error if the token begins with a letter, and a comment if not. -/
theorem lexLine_typeLine_iff (h : TypeLine (Text.trim line) name token after) :
    (∀ k, lexLine line = .ok (.declaration name k) ↔
      after = [] ∧ Kind.ofKeyword? (String.ofList token) = some k) ∧
    ((∃ e, lexLine line = .error e) ↔ BeginsWord token ∧
      ¬∃ k, after = [] ∧ Kind.ofKeyword? (String.ofList token) = some k) ∧
    (lexLine line = .ok .comment ↔ ¬BeginsWord token) := by
  by_cases hw : BeginsWord token
  · obtain ⟨hdeclares, hfails⟩ := lexLine_of_beginsWord h hw
    by_cases hk : ∃ k, after = [] ∧ Kind.ofKeyword? (String.ofList token) = some k
    · obtain ⟨k, hk⟩ := hk
      have hline := hdeclares k hk
      refine ⟨fun k' => ?_, ?_, ?_⟩
      · simp [hline, hk.1, hk.2]
      · simp [hline, hk.1, hk.2]
      · simp [hline, hw]
    · obtain ⟨e, he⟩ := hfails hk
      refine ⟨fun k' => ?_, ?_, ?_⟩
      · simpa [he] using fun hnil hk' => hk ⟨k', hnil, hk'⟩
      · exact iff_of_true ⟨e, he⟩ ⟨hw, hk⟩
      · simp [he, hw]
  · have hline := lexLine_eq_comment h hw
    have hnone : ∀ k, Kind.ofKeyword? (String.ofList token) ≠ some k := fun k hk =>
      hw (beginsWord_of_ofKeyword? h.token_ne_nil hk)
    refine ⟨fun k => ?_, ?_, ?_⟩
    · simp [hline, hnone]
    · simp [hline, hw]
    · exact iff_of_true hline hw

theorem typeLine_spaced (hline : line =
      '#' :: ' ' :: ("TYPE".toList ++ ' ' :: (name.toList ++ ' ' :: (token ++ after))))
    (hname : IsName isNameStart isNameContinue name.toList) (hsome : token ≠ [])
    (htoken : token.all (!isSeparator ·)) (hafter : after.head?.all isSeparator) :
    TypeLine line name token after :=
  hline ▸ @TypeLine.mk name [' '] [' '] [' '] token after blanks_space blanks_space (by simp) hname
    blanks_space (by simp) (by simpa using htoken) hsome ((Option.all_eq_true _ _).1 hafter)

theorem isName_up : IsName isNameStart isNameContinue "up".toList := ⟨'u', ['p'], rfl, rfl, rfl⟩

theorem lexLine_typeLine_iff_mixed :
    let gauge := "# TYPE up gauge".toList
    let late := "# TYPE up gauge now".toList
    let number := "# TYPE up 5".toList
    TypeLine (Text.trim gauge) "up" "gauge".toList [] ∧
    lexLine gauge = .ok (.declaration "up" .gauge) ∧
    TypeLine (Text.trim late) "up" "gauge".toList " now".toList ∧ (∃ e, lexLine late = .error e) ∧
    TypeLine (Text.trim number) "up" ['5'] [] ∧ lexLine number = .ok .comment := by
  intro gauge late number
  have hgauge : TypeLine (Text.trim gauge) "up" "gauge".toList [] :=
    typeLine_spaced (by decide) isName_up (by decide) (by decide) (by decide)
  have hlate : TypeLine (Text.trim late) "up" "gauge".toList " now".toList :=
    typeLine_spaced (by decide) isName_up (by decide) (by decide) (by decide)
  have hnumber : TypeLine (Text.trim number) "up" ['5'] [] :=
    typeLine_spaced (by decide) isName_up (by decide) (by decide) (by decide)
  refine ⟨hgauge, ?_, hlate, ?_, hnumber, ?_⟩
  · exact ((lexLine_typeLine_iff hgauge).1 .gauge).2 ⟨rfl, by decide⟩
  · exact (lexLine_typeLine_iff hlate).2.1.2 ⟨⟨'g', rfl, rfl⟩, by simp⟩
  · exact (lexLine_typeLine_iff hnumber).2.2.2 (by decide)

theorem number_for_keyword_ignored :
    ¬∀ (line : List Char) (name : String) (token after : List Char),
    TypeLine (Text.trim line) name token after →
    (¬∃ k, after = [] ∧ Kind.ofKeyword? (String.ofList token) = some k) →
    ∃ e, lexLine line = .error e := by
  intro hall
  have hnumber : TypeLine (Text.trim "# TYPE up 5".toList) "up" ['5'] [] :=
    typeLine_spaced (by decide) isName_up (by decide) (by decide) (by decide)
  have hword : ¬BeginsWord ['5'] := by decide
  obtain ⟨e, he⟩ := hall _ _ _ _ hnumber fun ⟨k, _, hk⟩ =>
    hword (beginsWord_of_ofKeyword? hnumber.token_ne_nil hk)
  rw [lexLine_eq_comment hnumber hword] at he
  cases he

end Lines

end Testbed.Metrics
