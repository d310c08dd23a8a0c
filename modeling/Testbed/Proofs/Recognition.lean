import Testbed.Proofs.Lexing
import Testbed.Proofs.Outline

/-!
Lines that are taken for samples. What a scanner takes is given by the grammar, so a line is a
sample exactly if the grammar says so; a line that breaks off or goes on too long is rejected.
-/
namespace Testbed.Metrics

variable {start continue_ : Char → Bool} {name rest s t v : List Char} {p : String × String}
  {ps : List (String × String)}

theorem isName_of_scanName (h : scanName start continue_ s = .ok (name, rest)) :
    s = name ++ rest ∧ IsName start continue_ name := by
  cases s with
  | nil => cases h
  | cons c r =>
    rw [scanName] at h
    split at h
    · next hc =>
      cases h
      have hall : (r.takeWhile continue_).all continue_ :=
        List.all_eq_true.2 fun d hd => List.mem_takeWhile_imp hd
      exact ⟨by simp, c, _, rfl, hc, hall⟩
    · cases h

theorem exists_skipSeparators (s : List Char) :
    ∃ blanks, Blanks blanks ∧ s = blanks ++ skipSeparators s :=
  ⟨s.takeWhile isSeparator, fun _ => List.mem_takeWhile_imp,
    List.takeWhile_append_dropWhile.symm⟩

theorem scanSeparators_spec (h : scanSeparators s = .ok rest) :
    rest = skipSeparators s ∧ s.takeWhile isSeparator ≠ [] := by
  cases s with
  | nil => cases h
  | cons c r =>
    rw [scanSeparators] at h
    split at h
    · next hc => exact ⟨(Except.ok.inj h).symm, by simp [hc]⟩
    · cases h

theorem exists_scanSeparators (h : scanSeparators s = .ok rest) :
    ∃ blanks, Blanks blanks ∧ blanks ≠ [] ∧ s = blanks ++ rest := by
  obtain ⟨rfl, hne⟩ := scanSeparators_spec h
  exact ⟨_, fun _ => List.mem_takeWhile_imp, hne, List.takeWhile_append_dropWhile.symm⟩

theorem quotes_of_scanLabelText (h : scanLabelText s = some (v, rest)) :
    ∃ t, s = t ++ '"' :: rest ∧ Quotes t v := by
  fun_induction scanLabelText s generalizing v rest with
  | case1 => cases h
  | case2 r =>
    cases h
    exact ⟨[], rfl, .nil⟩
  | case3 => cases h
  | case4 c r ih =>
    obtain ⟨⟨w, left⟩, hw, heq⟩ := Option.map_eq_some_iff.1 h
    obtain ⟨rfl, rfl⟩ := Prod.mk.inj heq
    obtain ⟨t, rfl, ht⟩ := ih hw
    refine ⟨'\\' :: c :: t, rfl, ?_⟩
    by_cases hn : c = 'n'
    · simpa [unescapeLabel, hn] using Quotes.feed ht
    · by_cases hc : c = '\\' ∨ c = '"'
      · simpa [unescapeLabel, hn, hc] using Quotes.mark hc ht
      · simpa [unescapeLabel, hn, hc] using Quotes.other ⟨hn, not_or.1 hc⟩ ht
  | case5 c r hquote hlone hescape ih =>
    obtain ⟨⟨w, left⟩, hw, heq⟩ := Option.map_eq_some_iff.1 h
    obtain ⟨rfl, rfl⟩ := Prod.mk.inj heq
    obtain ⟨t, rfl, ht⟩ := ih hw
    have hslash : c ≠ '\\' := by
      intro hc
      cases t with
      | nil => exact hescape _ _ hc rfl
      | cons d t => exact hescape _ _ hc rfl
    exact ⟨c :: t, rfl, .plain ⟨hquote, hslash⟩ ht⟩

theorem pairText_of_scanLabel (h : scanLabel s = .ok (p, rest)) :
    ∃ t, s = t ++ rest ∧ PairText Quotes t p := by
  obtain ⟨⟨name, left⟩, hscan, hvalue⟩ := bind_eq_ok.1 h
  obtain ⟨rfl, hname⟩ := isName_of_scanName hscan
  obtain ⟨before, hbefore, hleft⟩ := exists_skipSeparators left
  dsimp only at hvalue
  split at hvalue
  · next r hr =>
    obtain ⟨after, hafter, hright⟩ := exists_skipSeparators r
    split at hvalue
    · next body hbody =>
      split at hvalue
      · next v left' hv =>
        obtain ⟨t, rfl, ht⟩ := quotes_of_scanLabelText hv
        cases hvalue
        refine ⟨name ++ (before ++ '=' :: (after ++ '"' :: (t ++ ['"']))), ?_, ?_⟩
        · rw [hleft, hr, hright, hbody]
          simp
        · have hpair := @PairText.mk Quotes (String.ofList name, String.ofList v) before after t
            (by simpa using hname) hbefore hafter (by simpa using ht)
          simpa using hpair
      · cases hvalue
    · cases hvalue
  · cases hvalue

theorem furtherText_of_scanMoreLabels (h : scanMoreLabels s = .ok (ps, rest)) :
    ∃ t, s = t ++ rest ∧ FurtherText Quotes t ps := by
  fun_induction scanMoreLabels s generalizing ps rest with
  | case1 s r hs p left hl ih =>
    obtain ⟨⟨qs, left'⟩, hqs, heq⟩ := bind_eq_ok.1 h
    cases heq
    obtain ⟨more, rfl, hmore⟩ := ih hqs
    obtain ⟨pair, hpair, hp⟩ := pairText_of_scanLabel hl
    obtain ⟨before, hbefore, hs'⟩ := exists_skipSeparators s
    obtain ⟨after, hafter, hr⟩ := exists_skipSeparators r
    refine ⟨_, ?_, .cons hbefore hafter hp hmore⟩
    rw [hs', hs, hr, hpair]
    simp
  | case2 => cases h
  | case3 =>
    cases h
    exact ⟨[], rfl, .nil⟩
  | case4 =>
    cases h
    exact ⟨[], rfl, .nil⟩

theorem pairsText_of_scanLabels (h : scanLabels s = .ok (ps, rest)) :
    ∃ t, s = t ++ rest ∧ PairsText Quotes t ps := by
  rw [scanLabels] at h
  split at h
  · next p left hl =>
    obtain ⟨pair, rfl, hp⟩ := pairText_of_scanLabel hl
    obtain ⟨⟨qs, left'⟩, hqs, heq⟩ := bind_eq_ok.1 h
    cases heq
    obtain ⟨more, rfl, hmore⟩ := furtherText_of_scanMoreLabels hqs
    exact ⟨pair ++ more, by simp, .cons hp hmore⟩
  · split at h
    · cases h
    · cases h
      exact ⟨[], rfl, .nil⟩

theorem blockText_of_scanBlock (h : scanBlock s = .ok (ps, rest)) :
    ∃ t, s = t ++ rest ∧ BlockText Quotes t ps := by
  unfold scanBlock at h
  split at h
  · next r =>
    obtain ⟨⟨qs, left⟩, hqs, h⟩ := bind_eq_ok.1 h
    obtain ⟨before, hbefore, hr⟩ := exists_skipSeparators r
    obtain ⟨pairs, hpairs, hps⟩ := pairsText_of_scanLabels hqs
    obtain ⟨after, hafter, hleft⟩ := exists_skipSeparators left
    dsimp only at h
    split at h
    · next close hclose =>
      cases h
      split at hclose
      · next r' hcomma =>
        obtain ⟨blanks, hblanks, hr'⟩ := exists_skipSeparators r'
        refine ⟨_, ?_, .mk hbefore hps hafter (.comma hblanks)⟩
        rw [hr, hpairs, hleft, hcomma, hr', hclose]
        simp
      · refine ⟨_, ?_, .mk hbefore hps hafter .absent⟩
        rw [hr, hpairs, hleft, hclose]
        simp
    · cases h
  · cases h

theorem blockText_of_scanOptionalBlock {block : Option (List (String × String))}
    (h : scanOptionalBlock s = .ok (block, rest)) :
    (block = none ∧ rest = s) ∨ ∃ ps before t, block = some ps ∧ Blanks before ∧
      BlockText Quotes t ps ∧ s = before ++ (t ++ rest) := by
  rw [scanOptionalBlock] at h
  split at h
  · next ps left hblock =>
    cases h
    obtain ⟨before, hbefore, hs⟩ := exists_skipSeparators s
    obtain ⟨t, ht, hps⟩ := blockText_of_scanBlock hblock
    exact .inr ⟨ps, before, t, rfl, hbefore, hps, by rw [← ht, ← hs]⟩
  · split at h
    · cases h
    · cases h
      exact .inl ⟨rfl, rfl⟩

theorem token_of_scanValue {x : Float} (h : scanValue s = .ok (x, rest)) :
    ∃ token, s = token ++ rest ∧ (∀ c ∈ token, isSeparator c = false) ∧
      Decimal.readFloat token = some x := by
  simp only [scanValue] at h
  split at h
  · cases h
  · split at h
    · next hx =>
      cases h
      refine ⟨_, List.takeWhile_append_dropWhile.symm, fun c hc => ?_, hx⟩
      simpa using List.mem_takeWhile_imp hc
    · cases h

theorem exists_stampText (s : List Char) : ∃ stamp, s = stamp ++ (scanTimestamp s).2 ∧
    StampText stamp (scanTimestamp s).1 := by
  unfold scanTimestamp
  split
  · next r hr =>
    obtain ⟨blanks, hblanks, hne, rfl⟩ := exists_scanSeparators hr
    split
    · next hscan =>
      obtain ⟨numeral, rfl, hnumeral⟩ := Decimal.isInt64_of_scanInt64 hscan
      exact ⟨blanks ++ numeral, by simp, .stamp hblanks hne hnumeral⟩
    · exact ⟨[], rfl, .absent⟩
  · exact ⟨[], rfl, .absent⟩

theorem headText_of_scan {block : Option (List (String × String))} {left : List Char}
    (hblock : scanOptionalBlock s = .ok (block, left)) (hgap : scanGap block left = .ok rest) :
    ∃ head, s = head ++ rest ∧ HeadText Quotes head (block.getD []) := by
  rcases blockText_of_scanOptionalBlock hblock with
    ⟨rfl, rfl⟩ | ⟨ps, before, t, rfl, hbefore, hps, rfl⟩
  · obtain ⟨head, hhead, hne, hs⟩ := exists_scanSeparators hgap
    exact ⟨head, hs, .bare hhead hne⟩
  · obtain ⟨after, hafter, hleft⟩ := exists_skipSeparators left
    refine ⟨before ++ (t ++ after), ?_, .block hbefore hps hafter⟩
    rw [Except.ok.inj hgap] at hleft
    rw [hleft]
    simp

theorem scanSample_stages {l : Line} (h : scanSample s = .ok (l, rest)) :
    ∃ name s₁ block s₂ s₃ x s₄, scanName isNameStart isNameContinue s = .ok (name, s₁) ∧
      scanOptionalBlock s₁ = .ok (block, s₂) ∧ scanGap block s₂ = .ok s₃ ∧
      scanValue s₃ = .ok (x, s₄) ∧
      l = .sample ⟨String.ofList name, block.getD [], x, (scanTimestamp s₄).1⟩ ∧
      rest = skipSeparators (scanTimestamp s₄).2 := by
  rw [scanSample_eq] at h
  obtain ⟨⟨name, s₁⟩, hname, h⟩ := bind_eq_ok.1 h
  obtain ⟨⟨block, s₂⟩, hblock, h⟩ := bind_eq_ok.1 h
  obtain ⟨s₃, hgap, h⟩ := bind_eq_ok.1 h
  obtain ⟨⟨x, s₄⟩, hvalue, h⟩ := bind_eq_ok.1 h
  cases h
  exact ⟨name, s₁, block, s₂, s₃, x, s₄, hname, hblock, hgap, hvalue, rfl, rfl⟩

theorem sampleText_of_scanSample {l : Line} (h : scanSample s = .ok (l, rest)) :
    ∃ sample t blanks, l = .sample sample ∧ SampleText Quotes t sample ∧ Blanks blanks ∧
      s = t ++ (blanks ++ rest) := by
  obtain ⟨name, s₁, block, s₂, s₃, x, s₄, hname, hblock, hgap, hvalue, rfl, rfl⟩ :=
    scanSample_stages h
  obtain ⟨hs, hname⟩ := isName_of_scanName hname
  obtain ⟨head, hs₁, hhead⟩ := headText_of_scan hblock hgap
  obtain ⟨token, hs₃, htoken, hreads⟩ := token_of_scanValue hvalue
  obtain ⟨stamp, hs₄, hstamp⟩ := exists_stampText s₄
  obtain ⟨blanks, hblanks, hend⟩ := exists_skipSeparators (scanTimestamp s₄).2
  let sample : Sample := ⟨String.ofList name, block.getD [], x, (scanTimestamp s₄).1⟩
  have hsample := @SampleText.mk Quotes sample head token stamp (by simpa [sample] using hname)
    hhead htoken hreads hstamp
  refine ⟨_, _, blanks, rfl, hsample, hblanks, ?_⟩
  rw [hs, hs₁, hs₃, ← hend, String.toList_ofList]
  simp only [List.append_assoc]
  rw [← hs₄]

theorem blanks_eq_nil {blanks : List Char} (h : Blanks blanks)
    (hends : ∀ c ∈ (s ++ blanks).getLast?, Text.isBlank c = false) : blanks = [] := by
  by_contra hne
  obtain ⟨c, hc⟩ := Option.isSome_iff_exists.1 (List.getLast?_isSome.2 hne)
  have hblank := hends c (by rw [List.getLast?_append, hc]; rfl)
  rw [isBlank_of_isSeparator (h c (List.mem_of_getLast? hc))] at hblank
  cases hblank

theorem scanHelp_ne_sample {sample : Sample} : scanHelp s ≠ some (.sample sample, rest) := by
  intro h
  simp only [scanHelp, bind, Option.bind_eq_some_iff] at h
  obtain ⟨s₁, -, s₂, -, ⟨name, s₃⟩, -, h⟩ := h
  dsimp only at h
  split at h <;> cases h

theorem scanDeclaration_ne_sample {sample : Sample} :
    scanDeclaration s ≠ some (.ok (.sample sample, rest)) := by
  intro h
  simp only [scanDeclaration, bind, Option.bind_eq_some_iff] at h
  obtain ⟨s₁, -, s₂, -, ⟨name, s₃⟩, -, s₄, -, h⟩ := h
  split at h
  · cases h
  · split at h <;> cases h

theorem scanComment_ne_sample {sample : Sample} : scanComment s ≠ .ok (.sample sample, rest) := by
  intro h
  simp only [scanComment] at h
  split at h
  · next hhelp =>
    cases h
    exact scanHelp_ne_sample hhelp
  · cases hd : scanDeclaration (skipSeparators s) with
    | none => rw [hd] at h; cases h
    | some r =>
      rw [hd, Option.getD_some] at h
      exact scanDeclaration_ne_sample (hd.trans (congrArg some h))

theorem lexLine_eq_sample_iff {line : List Char} {sample : Sample} :
    lexLine line = .ok (.sample sample) ↔ SampleText Quotes (Text.trim line) sample := by
  refine ⟨fun h => ?_, fun h => lexLine_of_sampleText h rfl⟩
  simp only [lexLine] at h
  split at h
  · cases h
  · split at h
    · next l hscan =>
      cases h
      unfold scanLine at hscan
      split at hscan
      · exact absurd hscan scanComment_ne_sample
      · obtain ⟨sample', t, blanks, heq, htext, hblanks, ht⟩ := sampleText_of_scanSample hscan
        have hends := Text.trim_ends line
        cases heq
        rw [List.append_nil] at ht
        rw [ht] at hends ⊢
        rwa [blanks_eq_nil hblanks hends, List.append_nil]
    · cases h
    · cases h

/-- A line that ends inside its label block. -/
inductive BreaksOff : List Char → Prop
  | mk {name before cut more : List Char} {ps : List (String × String)}
      (hname : IsName isNameStart isNameContinue name) (hbefore : Blanks before)
      (hblock : BlockText Quotes (cut ++ more) ps) (hcut : cut ≠ []) (hmore : more ≠ []) :
      BreaksOff (name ++ (before ++ cut))

/-- A line that goes on after its value, but not with a timestamp, or after its timestamp. -/
inductive RunsOn : List Char → Prop
  | mk {t blanks junk : List Char} {sample : Sample} (htext : SampleText Quotes t sample)
      (hblanks : Blanks blanks) (hne : blanks ≠ []) (hjunk : junk ≠ [])
      (hhead : ∀ c ∈ junk.head?, isSeparator c = false)
      (htime : sample.timestamp = none → ∀ i, ¬Decimal.IsInt64 junk i) :
      RunsOn (t ++ (blanks ++ junk))

theorem scanSample_ne_of_unclosed {before r : List Char} {l : Line}
    (hname : IsName isNameStart isNameContinue name) (hbefore : Blanks before)
    (h : ∀ ps left, scanBlock ('\x7b' :: r) ≠ .ok (ps, left)) :
    scanSample (name ++ (before ++ '\x7b' :: r)) ≠ .ok (l, rest) := by
  intro hs
  have hskip : skipSeparators (before ++ '\x7b' :: r) = '\x7b' :: r :=
    skipSeparators_append hbefore (by simp +decide)
  have hscan : scanName isNameStart isNameContinue (name ++ (before ++ '\x7b' :: r)) =
      .ok (name, before ++ '\x7b' :: r) :=
    scanName_append hname
      (head?_blanks_append hbefore (fun c => isNameContinue_of_isSeparator) (by simp +decide))
  obtain ⟨name', s₁, block, s₂, s₃, x, s₄, hname', hblock, hgap, hvalue, -, -⟩ :=
    scanSample_stages hs
  rw [hscan] at hname'
  cases hname'
  rw [scanOptionalBlock, hskip] at hblock
  split at hblock
  · next ps left hb => exact h ps left hb
  · split at hblock
    · cases hblock
    · cases hblock
      obtain ⟨token, htoken, -, hreads⟩ := token_of_scanValue hvalue
      rw [(scanSeparators_spec hgap).1, hskip] at htoken
      have hbegin := beginsValue_token hreads s₄
      rw [← htoken] at hbegin
      exact (hbegin _ rfl).2 rfl

theorem exists_error_of_scanSample {line : List Char} {c : Char} {r : List Char}
    (ht : Text.trim line = c :: r) (hc : isNameStart c)
    (h : ∀ l, scanSample (c :: r) ≠ .ok (l, [])) : ∃ e, lexLine line = .error e := by
  have hline := scanLine_of_isNameStart hc r
  cases hs : scanSample (c :: r) with
  | error e => exact ⟨_, by simp [lexLine, ht, hline, hs]; rfl⟩
  | ok q =>
    obtain ⟨l, left⟩ := q
    cases left with
    | nil => exact absurd hs (h l)
    | cons d left => exact ⟨_, by simp [lexLine, ht, hline, hs]; rfl⟩

theorem BreaksOff.rejected {line : List Char} (h : BreaksOff (Text.trim line)) :
    ∃ e, lexLine line = .error e := by
  generalize ht : Text.trim line = text at h
  obtain @⟨name, before, cut, more, ps, hname, hbefore, hblock, hcut, hmore⟩ := h
  obtain ⟨c, r, rfl, hc, -⟩ := hname.begins
  refine exists_error_of_scanSample ht hc fun l => ?_
  obtain ⟨d, cut, rfl⟩ := List.exists_cons_of_ne_nil hcut
  obtain ⟨s, hs⟩ := hblock.cons
  obtain ⟨rfl, -⟩ := List.cons.inj hs
  -- A block that ended in the cut would end there in the whole block too.
  refine scanSample_ne_of_unclosed hname hbefore fun qs left hscan => ?_
  obtain ⟨t, ht, htext⟩ := blockText_of_scanBlock hscan
  have hwhole := scanBlock_append hblock []
  have hpart := scanBlock_append htext (left ++ more)
  rw [List.append_nil, ht, List.append_assoc, hpart] at hwhole
  simp [hmore] at hwhole

theorem skip_scanTimestamp_ne_nil {blanks junk stamp : List Char} {time : Option Int}
    (hstamp : StampText stamp time) (hblanks : Blanks blanks) (hne : blanks ≠ []) (hjunk : junk ≠ [])
    (hhead : ∀ c ∈ junk.head?, isSeparator c = false)
    (hends : ∀ c ∈ junk.getLast?, Text.isBlank c = false)
    (htime : time = none → ∀ i, ¬Decimal.IsInt64 junk i) :
    skipSeparators (scanTimestamp (stamp ++ (blanks ++ junk))).2 ≠ [] := by
  have hskip : skipSeparators (blanks ++ junk) = junk := skipSeparators_append hblanks hhead
  cases hstamp with
  | absent =>
    have hgap := scanSeparators_append hblanks hne hhead
    rw [List.nil_append]
    cases hn : Decimal.scanInt64 junk with
    | none => simp only [scanTimestamp, hgap, hn, hskip, ne_eq, hjunk, not_false_eq_true]
    | some q =>
      obtain ⟨i, left⟩ := q
      simp only [scanTimestamp, hgap, hn]
      obtain ⟨numeral, hnumeral, hi⟩ := Decimal.isInt64_of_scanInt64 hn
      obtain ⟨b, hb, hleft⟩ := exists_skipSeparators left
      intro hnil
      rw [hnil, List.append_nil] at hleft
      rw [hnumeral, hleft] at hends
      rw [hleft, blanks_eq_nil hb hends, List.append_nil] at hnumeral
      exact htime rfl i (hnumeral ▸ hi)
  | stamp hb hb' hn =>
    have hdigit : ∀ c ∈ (blanks ++ junk).head?, c.isDigit = false := by
      intro c hc
      rcases isSeparator_iff.1 (hblanks c (mem_head?_append hne hc)) with rfl | rfl <;> rfl
    rw [List.append_assoc, scanTimestamp_append hb hb' hn hdigit, hskip]
    exact hjunk

theorem RunsOn.rejected {line : List Char} (h : RunsOn (Text.trim line)) :
    ∃ e, lexLine line = .error e := by
  have hends := Text.trim_ends line
  generalize ht : Text.trim line = text at h hends
  obtain @⟨t, blanks, junk, sample, htext, hblanks, hne, hjunk, hhead, htime⟩ := h
  obtain ⟨c, r, hr, hc, -⟩ := htext.begins
  refine exists_error_of_scanSample (c := c) (r := r ++ (blanks ++ junk)) (by rw [ht, hr]; rfl) hc
    fun l hscan => ?_
  rw [← List.cons_append, ← hr] at hscan
  obtain @⟨⟨name, ps, x, time⟩, head, token, stamp, hname, hhead', -, hreads, hstamp⟩ := htext
  have hfollow : ∀ c ∈ (blanks ++ junk).head?, isSeparator c := fun c hc =>
    hblanks c (mem_head?_append hne hc)
  have hlast : ∀ c ∈ junk.getLast?, Text.isBlank c = false := by
    intro c hc
    refine hends c ?_
    rw [← List.append_assoc, List.getLast?_append, hc]
    rfl
  simp only [List.append_assoc] at hscan
  rw [scanSample_append hname hhead' hreads (hstamp.head? hfollow)] at hscan
  exact skip_scanTimestamp_ne_nil hstamp hblanks hne hjunk hhead hlast htime
    (congrArg Prod.snd (Except.ok.inj hscan))

/-- A sample is read back from each line that it may be laid out as, blanks around it included. -/
theorem lexLine_of_laidOut {before text after : List Char} {sample : Sample}
    (htext : SampleText Escapes text sample) (hbefore : Blanks before) (hafter : Blanks after) :
    lexLine (before ++ (text ++ after)) = .ok (.sample sample) :=
  lexLine_of_sampleText (htext.mono fun _ _ => Escapes.quotes) (htext.trim_append hbefore hafter)

def spaced : Sample := ⟨"up", [("a", "x\"\n"), ("a", "")], Decimal.nearest 15 (-1), some 42⟩

def spacedText : List Char := "up \x7b\ta =\"x\\\"\\n\" , a=\t\"\",\x7d1.5 \t+42".toList

theorem spacedText_spaced : SampleText Escapes spacedText spaced := by
  have hname : IsName isLabelStart isLabelContinue "a".toList := ⟨'a', [], rfl, rfl, rfl⟩
  have htab : Blanks ['\t'] := by simp [Blanks, isSeparator]
  have hgap : Blanks [' ', '\t'] := by simp [Blanks, isSeparator]
  have hfirst : PairText Escapes "a =\"x\\\"\\n\"".toList ("a", "x\"\n") :=
    @PairText.mk Escapes ("a", "x\"\n") _ _ "x\\\"\\n".toList hname blanks_space blanks_nil rfl
  have hsecond : PairText Escapes "a=\t\"\"".toList ("a", "") :=
    @PairText.mk Escapes ("a", "") _ _ [] hname blanks_nil htab rfl
  have hblock : BlockText Escapes "\x7b\ta =\"x\\\"\\n\" , a=\t\"\",\x7d".toList spaced.labels :=
    .mk htab (.cons hfirst (.cons blanks_space blanks_space hsecond .nil)) blanks_nil
      (.comma blanks_nil)
  have hstamp : StampText " \t+42".toList (some 42) :=
    .stamp hgap (List.cons_ne_nil _ _)
      ⟨⟨['+'], ['4', '2'], rfl, by decide, by simp, .inl ⟨.inr rfl, rfl⟩⟩, rfl⟩
  exact @SampleText.mk Escapes spaced _ ['1', '.', '5'] _ ⟨'u', ['p'], rfl, rfl, rfl⟩
    (.block blanks_space hblock blanks_nil) (by simp [isSeparator]) rfl hstamp

theorem lexLine_of_laidOut_spaced :
    SampleText Escapes spacedText spaced ∧
      lexLine ('\t' :: (spacedText ++ [' ', '\t'])) = .ok (.sample spaced) := by
  have hbefore : Blanks ['\t'] := by simp [Blanks, isSeparator]
  have hafter : Blanks [' ', '\t'] := by simp [Blanks, isSeparator]
  exact ⟨spacedText_spaced, lexLine_of_laidOut spacedText_spaced hbefore hafter⟩

/-- A line is a sample exactly if the grammar gives it for that sample, up to the blanks around
it. A line that ends inside its label block is rejected, and so is one that goes on after its
value or timestamp, be it with a number that is too large for a timestamp. -/
theorem lexLine_sample_iff (line : List Char) :
    (∀ sample, lexLine line = .ok (.sample sample) ↔ SampleText Quotes (Text.trim line) sample) ∧
      (BreaksOff (Text.trim line) ∨ RunsOn (Text.trim line) → ∃ e, lexLine line = .error e) :=
  ⟨fun _ => lexLine_eq_sample_iff, fun h => h.elim BreaksOff.rejected RunsOn.rejected⟩

def cutLine : List Char := "up\x7ba=\"x\"".toList

def lateLine : List Char := "up 1.5 9223372036854775808".toList

theorem breaksOff_cutLine : BreaksOff (Text.trim cutLine) := by
  have hpair : PairText Quotes "a=\"x\"".toList ("a", "x") :=
    @PairText.mk Quotes ("a", "x") _ _ ['x'] ⟨'a', [], rfl, rfl, rfl⟩ blanks_nil blanks_nil
      (.plain (by decide) .nil)
  have hblock : BlockText Quotes ("\x7ba=\"x\"".toList ++ ['\x7d']) [("a", "x")] :=
    .mk blanks_nil (.cons hpair .nil) blanks_nil .absent
  have hname : IsName isNameStart isNameContinue "up".toList := ⟨'u', ['p'], rfl, rfl, rfl⟩
  exact .mk hname blanks_nil hblock (List.cons_ne_nil _ _) (List.cons_ne_nil _ _)

theorem runsOn_lateLine : RunsOn (Text.trim lateLine) := by
  have hname : IsName isNameStart isNameContinue "up".toList := ⟨'u', ['p'], rfl, rfl, rfl⟩
  have hhead : HeadText Quotes [' '] [] := .bare blanks_space (List.cons_ne_nil _ _)
  have htext := @SampleText.mk Quotes ⟨"up", [], Decimal.nearest 15 (-1), none⟩ [' ']
    ['1', '.', '5'] [] hname hhead (by simp [isSeparator]) rfl .absent
  have hlate : Decimal.scanInt64 ("9223372036854775808".toList ++ []) = none := by decide
  refine @RunsOn.mk _ [' '] "9223372036854775808".toList _ htext blanks_space
    (List.cons_ne_nil _ _) (List.cons_ne_nil _ _) (by simp [isSeparator]) fun _ i hi => ?_
  have hend : ∀ c ∈ ([] : List Char).head?, c.isDigit = false := by simp
  have hscan := Decimal.scanInt64_append hi hend
  rw [hlate] at hscan
  cases hscan

theorem lexLine_sample_iff_rejected :
    (BreaksOff (Text.trim cutLine) ∧ ∃ e, lexLine cutLine = .error e) ∧
      RunsOn (Text.trim lateLine) ∧ ∃ e, lexLine lateLine = .error e :=
  ⟨⟨breaksOff_cutLine, (lexLine_sample_iff cutLine).2 (.inl breaksOff_cutLine)⟩,
    runsOn_lateLine, (lexLine_sample_iff lateLine).2 (.inr runsOn_lateLine)⟩

end Testbed.Metrics
