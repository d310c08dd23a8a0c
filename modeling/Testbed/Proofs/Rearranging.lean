import Testbed.Proofs.Summing
import Testbed.Proofs.Tokens

/-!
Documents with the same lines in another order. Declarations decide where samples belong wherever
they stand, so only the help lines for one name and the samples of one family have to keep their
order.
-/
namespace Testbed.Metrics

def Line.helped? (l : Line) : Option String := l.help?.map (·.1)

def Line.family? (kinds : Table Kind) (l : Line) : Option String := l.sample?.map (familyName kinds)

def trimmedLines (document : String) : List (List Char) :=
  (Text.lines document.toList).map Text.trim

section Order

variable (key : Line → Option String) (before after : List (List Char))

def IsFor (name : String) (text : List Char) : Bool := (lexLine text).toOption.bind key = some name

def KeepsOrder : Prop := ∀ name, after.filter (IsFor key name) = before.filter (IsFor key name)

end Order

/-- The lines `before` moved about, where those that are neither help nor samples may also have
been repeated. -/
structure Rearranged (kinds : Table Kind) (before after : List (List Char)) : Prop where
  same : ∀ text, text ∈ after ↔ text ∈ before
  helps : KeepsOrder Line.helped? before after
  samples : KeepsOrder (Line.family? kinds) before after

variable {kinds : Table Kind} {helps : Table String} {fs : Families} {ss ss' : List Sample}
  {ls ls' : List Line} {before after : List (List Char)} {document document' : String}
  {key : Line → Option String}

theorem mem_names {name : String} {text : List Char} (hn : IsFor key name text)
    (ht : text ∈ before) : name ∈ before.filterMap fun text => (lexLine text).toOption.bind key :=
  List.mem_filterMap.2 ⟨text, ht, of_decide_eq_true hn⟩

theorem filter_isFor_eq_nil {name : String}
    (h : name ∉ before.filterMap fun text => (lexLine text).toOption.bind key) :
    before.filter (IsFor key name) = [] :=
  List.filter_eq_nil_iff.2 fun _ ht hn => h (mem_names hn ht)

theorem rearranged_iff : Rearranged kinds before after ↔
    (∀ text ∈ after, text ∈ before) ∧ (∀ text ∈ before, text ∈ after) ∧
      ∀ key ∈ [Line.helped?, Line.family? kinds],
        ∀ name ∈ before.filterMap fun text => (lexLine text).toOption.bind key,
          after.filter (IsFor key name) = before.filter (IsFor key name) := by
  constructor
  · intro h
    refine ⟨fun text => (h.same text).1, fun text => (h.same text).2, fun key hkey name _ => ?_⟩
    rcases List.mem_pair.1 hkey with rfl | rfl
    · exact h.helps name
    · exact h.samples name
  · intro ⟨hafter, hbefore, hnames⟩
    have hkeeps : ∀ key ∈ [Line.helped?, Line.family? kinds], KeepsOrder key before after := by
      intro key hkey name
      by_cases hname : name ∈ before.filterMap fun text => (lexLine text).toOption.bind key
      · exact hnames key hkey name hname
      · rw [filter_isFor_eq_nil hname, List.filter_eq_nil_iff]
        exact fun text ht hn => hname (mem_names hn (hafter text ht))
    exact ⟨fun text => ⟨hafter text, hbefore text⟩, hkeeps _ (List.mem_pair.2 (.inl rfl)),
      hkeeps _ (List.mem_pair.2 (.inr rfl))⟩

instance : Decidable (Rearranged kinds before after) := decidable_of_iff' _ rearranged_iff

theorem get?_ofList_eq_getLast? {α : Type} (pairs : List (String × α)) (k : String) :
    (Table.ofList pairs).get? k = (pairs.filter (·.1 = k)).getLast?.map (·.2) := by
  induction pairs using List.reverseRecOn with
  | nil => rfl
  | append_singleton pairs p ih =>
    rw [Table.ofList_concat, Table.get?_insert, ih]
    by_cases hp : p.1 = k <;> simp [hp]

theorem filter_filterMap_key {α : Type} (f : Line → Option α) (g : α → String) (name : String)
    (ls : List Line) : (ls.filterMap f).filter (g · = name) =
      (ls.filter fun l => (f l).map g = some name).filterMap f := by
  rw [List.filter_filterMap, List.filterMap_filter]
  refine List.filterMap_congr fun l _ => ?_
  cases f l <;> simp [Option.filter]

theorem Agreeing.kindsOf_eq (h : Agreeing ls) (hsame : ∀ l, l ∈ ls' ↔ l ∈ ls) :
    kindsOf ls' = kindsOf ls := by
  have h' : Agreeing ls' := h.mono fun l => (hsame l).1
  refine Table.ext_get? fun name => Option.ext fun kind => ?_
  rw [h'.get?_kindsOf, h.get?_kindsOf, hsame]

theorem helpsOf_eq
    (h : ∀ name, ls'.filter (·.helped? = some name) = ls.filter (·.helped? = some name)) :
    helpsOf ls' = helpsOf ls := by
  refine Table.ext_get? fun name => ?_
  have hname := congrArg (List.filterMap Line.help?) (h name)
  rw [helpsOf, helpsOf, get?_ofList_eq_getLast?, get?_ofList_eq_getLast?,
    filter_filterMap_key Line.help?, filter_filterMap_key Line.help?]
  exact congrArg (fun helps => helps.getLast?.map (·.2)) hname

theorem Holds.congr (h : Holds kinds helps fs ss)
    (hss : ∀ name, ss'.filter (familyName kinds · = name) = ss.filter (familyName kinds · = name)) :
    Holds kinds helps fs ss' := by
  have hmem : ∀ s name, s ∈ ss' ∧ familyName kinds s = name ↔
      s ∈ ss ∧ familyName kinds s = name := by
    intro s name
    have hs : s ∈ ss'.filter (familyName kinds · = name) ↔
        s ∈ ss.filter (familyName kinds · = name) := by rw [hss]
    simpa using hs
  constructor
  · intro name
    rw [h.names]
    simp only [hmem]
  · intro name f hf
    rw [h.family name f hf, familyOf, familyOf, partsOf, partsOf, hss]

theorem lexLine_trim (line : List Char) : lexLine (Text.trim line) = lexLine line := by
  rw [lexLine, Text.trim_trim, ← lexLine]

theorem map_lexLine_trimmedLines (document : String) :
    (trimmedLines document).map lexLine = (Text.lines document.toList).map lexLine := by
  rw [trimmedLines, List.map_map]
  exact List.map_congr_left fun line _ => lexLine_trim line

theorem map_lexLine_filter (h : before.map lexLine = ls.map .ok) (name : String) :
    (before.filter (IsFor key name)).map lexLine = (ls.filter (key · = some name)).map .ok := by
  have htexts : IsFor key name = (fun e => decide ((Except.toOption e).bind key = some name)) ∘
      lexLine := rfl
  rw [htexts, ← List.filter_map, h, List.filter_map]
  rfl

theorem KeepsOrder.lexed (h : KeepsOrder key before after)
    (hls : before.map lexLine = ls.map .ok) (hls' : after.map lexLine = ls'.map .ok)
    (name : String) : ls'.filter (key · = some name) = ls.filter (key · = some name) := by
  have hok : Function.Injective (Except.ok : Line → Except LineError Line) :=
    fun _ _ => Except.ok.inj
  refine List.map_injective_iff.2 hok ?_
  rw [← map_lexLine_filter hls', h name, map_lexLine_filter hls]

theorem mem_of_lexed (h : before.map lexLine = ls.map .ok) (l : Line) :
    l ∈ ls ↔ ∃ text ∈ before, lexLine text = .ok l := by
  have hl : Except.ok l ∈ before.map lexLine ↔ l ∈ ls := by simp [h]
  rw [← hl, List.mem_map]

theorem exists_lexed (h : ∀ text ∈ after, ∃ l, lexLine text = .ok l) :
    ∃ ls : List Line, after.map lexLine = ls.map .ok := by
  induction after with
  | nil => exact ⟨[], rfl⟩
  | cons text texts ih =>
    obtain ⟨⟨l, hl⟩, htexts⟩ := List.forall_mem_cons.1 h
    obtain ⟨ls, hls⟩ := ih htexts
    exact ⟨l :: ls, by rw [List.map_cons, List.map_cons, hl, hls]⟩

/-- A document that is read is read alike in any other arrangement of its lines. -/
theorem parse_of_rearranged (h : parse document = .ok fs)
    (hr : Rearranged (kindsOf (linesIn document)) (trimmedLines document)
      (trimmedLines document')) : parse document' = .ok fs := by
  obtain ⟨ls, hls, hagree, hadmissible, hholds⟩ := parse_eq_ok.1 h
  rw [linesIn_of_lexed hls] at hr
  rw [← map_lexLine_trimmedLines] at hls
  obtain ⟨ls', hls'⟩ : ∃ ls' : List Line, (trimmedLines document').map lexLine = ls'.map .ok := by
    refine exists_lexed fun text htext => ?_
    have hmem : lexLine text ∈ ls.map .ok := hls ▸ List.mem_map_of_mem ((hr.same text).1 htext)
    obtain ⟨l, -, hl⟩ := List.mem_map.1 hmem
    exact ⟨l, hl.symm⟩
  have hsame : ∀ l, l ∈ ls' ↔ l ∈ ls := by
    intro l
    rw [mem_of_lexed hls', mem_of_lexed hls]
    simp only [hr.same]
  have hkinds := hagree.kindsOf_eq hsame
  have hhelps := helpsOf_eq (hr.helps.lexed hls hls')
  have hsamples : ∀ name, (samplesOf ls').filter (familyName (kindsOf ls) · = name) =
      (samplesOf ls).filter (familyName (kindsOf ls) · = name) := by
    intro name
    rw [samplesOf, samplesOf, filter_filterMap_key Line.sample?, filter_filterMap_key Line.sample?]
    exact congrArg (List.filterMap Line.sample?) (hr.samples.lexed hls hls' name)
  refine parse_eq_ok.2 ⟨ls', (map_lexLine_trimmedLines document').symm.trans hls',
    hagree.mono fun l => (hsame l).1, ?_, ?_⟩
  · intro s hs
    rw [hkinds]
    obtain ⟨l, hl, hsl⟩ := List.mem_filterMap.1 hs
    exact hadmissible s (List.mem_filterMap.2 ⟨l, (hsame l).1 hl, hsl⟩)
  · rw [hkinds, hhelps]
    exact hholds.congr hsamples

def declaredFirst : String :=
  "# TYPE h histogram\n# HELP h one\nh_sum 1\nup 1\n\n# HELP h two\nh_sum 2\n# HELP up one\n"

def declaredLast : String :=
  "up 1\n\n# HELP up one\n# HELP h one\n\th_sum 1\r\nh_sum 2\n# HELP h two\n\n" ++
    "# TYPE h histogram\n# TYPE h histogram"

theorem parse_of_rearranged_declaredLast :
    ∃ fs, parse declaredFirst = .ok fs ∧ parse declaredLast = .ok fs ∧
      fs.keys = ["h", "up"] ∧ (fs.get? "h").bind (·.help) = some "two" := by
  obtain ⟨fs, hfs, hkeys⟩ := Environment.exists_of_toOption (x := parse declaredFirst)
    (p := fun fs => fs.keys = ["h", "up"] ∧ (fs.get? "h").bind (·.help) = some "two")
    (by decide +kernel)
  have hr : Rearranged (kindsOf (linesIn declaredFirst)) (trimmedLines declaredFirst)
      (trimmedLines declaredLast) := by decide +kernel
  exact ⟨fs, hfs, parse_of_rearranged hfs hr, of_decide_eq_true hkeys⟩

end Testbed.Metrics
