import Testbed.Files
import Testbed.Proofs.Labels

/-!
Directories that are made and removed. Where a path leads does not depend on what is there, only
whether it leads anywhere does; so what was made at a path is gone once the path is removed,
whatever else has happened to the files in between. It is back as soon as a directory is made
below it.
-/
namespace Testbed

namespace Path

variable {p name : String}

theorem pieces_ne_nil (p : String) : pieces p ≠ [] := by
  unfold pieces Text.splitAt
  rw [ne_eq, List.map_eq_nil_iff]
  exact Text.cut_ne_nil '/' p.toList

theorem pieces_concat (hn : '/' ∉ name.toList) (p : String) :
    pieces (p ++ "/" ++ name) = pieces p ++ [name] := by
  have hl : (p ++ "/" ++ name).toList = p.toList ++ '/' :: name.toList := by simp
  unfold pieces Text.splitAt
  rw [hl, Text.cut_concat hn, List.map_append]
  simp

theorem eq_empty_of_pieces (h : pieces p = [""]) : p = "" := by
  unfold pieces Text.splitAt at h
  obtain ⟨t, ht, htext⟩ := List.map_eq_singleton_iff.mp h
  have hnil : t = [] := by simpa using congrArg String.toList htext
  rw [hnil] at ht
  cases hp : p.toList with
  | nil => exact String.toList_eq_nil_iff.mp hp
  | cons c r =>
    rw [hp, Text.cut] at ht
    split at ht
    · exact absurd (List.cons.inj ht).2 (Text.cut_ne_nil '/' r)
    · cases hr : Text.cut '/' r with
      | nil => exact absurd hr (Text.cut_ne_nil '/' r)
      | cons q qs => simp [hr] at ht

theorem components_of_pieces {first : String} {rest : List String}
    (h : pieces p = first :: rest) :
    components p = anchor first rest ++ rest.filter (!isVoid ·) := by
  rw [components, h]

theorem isVoid_of_isLabel (h : isLabel name = true) : isVoid name = false := by
  simp [isVoid, ne_empty_of_isLabel h, ne_dot_of_isLabel h]

theorem isRooted_of_not_mem (h : '/' ∉ name.toList) : isRooted name = false := by
  unfold isRooted
  cases hn : name.toList with
  | nil => rfl
  | cons c r =>
    have hc : c ≠ '/' := fun heq => h (by rw [hn, heq]; exact List.mem_cons_self)
    simp [hc]

theorem pieces_trailing (s : String) : pieces (s ++ "/") = pieces s ++ [""] := by
  have h : pieces (s ++ "/" ++ "") = pieces s ++ [""] := pieces_concat (by simp) s
  rwa [String.append_empty] at h

theorem components_append {s : String} (hmem : '/' ∉ name.toList) (hvoid : isVoid name = false) :
    components (s ++ "/" ++ name) = components (s ++ "/") ++ [name] := by
  have hempty : isVoid "" = true := rfl
  cases hs : pieces s with
  | nil => exact absurd hs (pieces_ne_nil s)
  | cons first rest =>
    have hname : pieces (s ++ "/" ++ name) = first :: (rest ++ [name]) := by
      rw [pieces_concat hmem, hs, List.cons_append]
    have hslash : pieces (s ++ "/") = first :: (rest ++ [""]) := by
      rw [pieces_trailing, hs, List.cons_append]
    rw [components_of_pieces hname, components_of_pieces hslash]
    simp [anchor, hvoid, hempty]

theorem components_trailing (hp : p ≠ "") : components (p ++ "/") = components p := by
  have hempty : isVoid "" = true := rfl
  cases hs : pieces p with
  | nil => exact absurd hs (pieces_ne_nil p)
  | cons first rest =>
    have hslash : pieces (p ++ "/") = first :: (rest ++ [""]) := by
      rw [pieces_trailing, hs, List.cons_append]
    rw [components_of_pieces hs, components_of_pieces hslash]
    by_cases hfirst : first = ""
    · have hrest : rest ≠ [] := by
        rintro rfl
        exact hp (eq_empty_of_pieces (hfirst ▸ hs))
      simp [anchor, hfirst, hrest, hempty]
    · simp [anchor, hfirst, hempty]

theorem components_join_piece (hmem : '/' ∉ name.toList) (hvoid : isVoid name = false)
    (p : String) : components (join p name) = components p ++ [name] := by
  have hne : name ≠ "" := by
    rintro rfl
    cases hvoid
  unfold join
  rw [isRooted_of_not_mem hmem, if_neg Bool.false_ne_true]
  -- a separator is put in between unless there is nothing before it or one already
  by_cases hp : p = ""
  · have hname : pieces name = [name] := by
      simp [pieces, Text.splitAt, Text.cut_of_not_mem hmem]
    rw [hp, if_pos (.inl rfl), String.empty_append, components_of_pieces hname]
    simp [anchor, hne, components, pieces, Text.splitAt, Text.cut]
  · by_cases hlast : p.toList.getLast? = some '/'
    · obtain ⟨s, hs⟩ := List.getLast?_eq_some_iff.mp hlast
      have hslash : p = String.ofList s ++ "/" := by
        apply String.toList_inj.mp
        simp [hs]
      rw [if_pos (.inr hlast), hslash]
      exact components_append hmem hvoid
    · rw [if_neg (by simp [hp, hlast]), components_append hmem hvoid, components_trailing hp]

theorem components_join (h : isLabel name = true) (p : String) :
    components (join p name) = components p ++ [name] :=
  components_join_piece (not_mem_of_isLabel rfl h) (isVoid_of_isLabel h) p

end Path

namespace Files

variable {f g : Files} {p q : Place} {cs : List String} {path : String} {x : Entry}

def advance (p : Place) (c : String) : Except FileError Place :=
  if c = "/" then .ok []
  else if c = "." then .ok p
  else if c = ".." then .ok p.dropLast
  else if 255 < c.utf8ByteSize then .error .nameTooLong
  else .ok (p ++ [c])

theorem walk_cons_eq_ok {c : String} : f.walk p (c :: cs) = .ok q ↔
    f.entry? p = some .directory ∧ ∃ p', advance p c = .ok p' ∧ f.walk p' cs = .ok q := by
  simp only [walk, advance]
  rcases f.entry? p with _ | ⟨_ | _⟩
  · simp
  · by_cases hroot : c = "/"
    · simp [hroot]
    · by_cases hdot : c = "."
      · simp [hdot]
      · by_cases hup : c = ".."
        · simp [hup]
        · by_cases hlong : 255 < c.utf8ByteSize <;> simp [hroot, hdot, hup, hlong]
  · simp

theorem walk_unique {q' : Place} (hf : f.walk p cs = .ok q) (hg : g.walk p cs = .ok q') :
    q = q' := by
  induction cs generalizing p with
  | nil =>
    cases hf
    cases hg
    rfl
  | cons c cs ih =>
    obtain ⟨-, p₁, hp₁, hf⟩ := walk_cons_eq_ok.mp hf
    obtain ⟨-, p₂, hp₂, hg⟩ := walk_cons_eq_ok.mp hg
    cases hp₁.symm.trans hp₂
    exact ih hf hg

theorem walk_of_walkFromRoot (h : f.walkFromRoot cs = .ok p) : f.walk [] cs = .ok p := by
  unfold walkFromRoot at h
  split at h
  · cases h
  · exact h

theorem locate_unique (hf : f.locate path = .ok p) (hg : g.locate path = .ok q) : p = q :=
  walk_unique (walk_of_walkFromRoot hf) (walk_of_walkFromRoot hg)

theorem entry?_put (f : Files) (p q : Place) (x : Entry) :
    entry? (f.put p x) q =
      if q = [] then some .directory else if key p = key q then some x else f.entry? q := by
  unfold entry? put
  split
  · rfl
  · exact Table.get?_insert _ _ _ _

theorem entry?_remove (h : f.locate path = .ok p) (hp : p ≠ []) :
    entry? (f.remove path) p = none := by
  simp [ entry?, remove, h, hp, Table.get?_filterKeys]

theorem exists?_remove (h : ∀ p, f.locate path = .ok p → p ≠ []) :
    (f.remove path).exists? path = false := by
  unfold exists? lookUp
  cases hf : f.locate path with
  | error e =>
    have hsame : f.remove path = f := by simp [remove, hf]
    rw [hsame, hf]
    rfl
  | ok p =>
    -- the way there may be gone too; if it is not, it leads to the same place as before
    cases hg : (f.remove path).locate path with
    | error e => rfl
    | ok q =>
      obtain rfl := locate_unique hf hg
      dsimp only
      rw [entry?_remove hf (h p hf)]
      rfl

/-- What is there stays there, and what is a directory stays one. -/
structure Grows (f g : Files) : Prop where
  directory : ∀ p, f.entry? p = some .directory → g.entry? p = some .directory
  entry : ∀ p, (f.entry? p).isSome = true → (g.entry? p).isSome = true

theorem Grows.refl (f : Files) : Grows f f := ⟨fun _ h => h, fun _ h => h⟩

theorem Grows.trans {f' : Files} (h : Grows f f') (h' : Grows f' g) : Grows f g where
  directory p hp := h'.directory p (h.directory p hp)
  entry p hp := h'.entry p (h.entry p hp)

theorem Grows.walk (h : Grows f g) (hw : f.walk p cs = .ok q) : g.walk p cs = .ok q := by
  induction cs generalizing p with
  | nil => exact hw
  | cons c cs ih =>
    obtain ⟨hp, p', ha, hw⟩ := walk_cons_eq_ok.mp hw
    exact walk_cons_eq_ok.mpr ⟨h.directory p hp, p', ha, ih hw⟩

theorem Grows.walkFromRoot (h : Grows f g) (hw : f.walkFromRoot cs = .ok p) :
    g.walkFromRoot cs = .ok p := by
  unfold Files.walkFromRoot at hw ⊢
  split at hw
  · cases hw
  · next hnul =>
    rw [if_neg hnul]
    exact h.walk hw

theorem lookUp_eq_some_iff :
    f.lookUp path = some x ↔ ∃ p, f.locate path = .ok p ∧ f.entry? p = some x := by
  unfold lookUp
  cases f.locate path <;> simp

theorem exists?_iff :
    f.exists? path = true ↔ ∃ p, f.locate path = .ok p ∧ (f.entry? p).isSome = true := by
  unfold exists? lookUp
  cases f.locate path <;> simp

theorem Grows.exists? (h : Grows f g) (hf : f.exists? path = true) : g.exists? path = true := by
  obtain ⟨p, hp, hx⟩ := exists?_iff.mp hf
  exact exists?_iff.mpr ⟨p, h.walkFromRoot hp, h.entry p hx⟩

theorem ne_nil_of_not_directory (h : f.entry? p ≠ some .directory) : p ≠ [] := by
  rintro rfl
  simp [ entry?] at h

theorem entry?_congr (hp : p ≠ []) (hq : q ≠ []) (hk : key p = key q) :
    f.entry? p = f.entry? q := by
  simp [ entry?, hp, hq, hk]

theorem grows_put (h : f.entry? p = some .directory → x = .directory) : Grows f (f.put p x) := by
  constructor
  · intro q hq
    rw [entry?_put]
    split
    · rfl
    · next hne =>
      split
      · next hkey =>
        by_cases hp : p = []
        · rw [h (by simp [ entry?, hp])]
        · rw [h (by rw [entry?_congr hp hne hkey, hq])]
      · exact hq
  · intro q hq
    rw [entry?_put]
    split
    · rfl
    · split
      · rfl
      · exact hq

theorem put_grows {y : Entry} (h : f.entry? p = some y) (hy : y ≠ .directory)
    (hx : x ≠ .directory) : Grows (f.put p x) f := by
  have hp : p ≠ [] := ne_nil_of_not_directory (f := f) (by simp [h, hy])
  constructor
  · intro q hq
    rw [entry?_put] at hq
    split at hq
    · next hnil => simp [ entry?, hnil]
    · split at hq
      · exact absurd (Option.some.inj hq) hx
      · exact hq
  · intro q hq
    rw [entry?_put] at hq
    split at hq
    · next hnil => simp [ entry?, hnil]
    · next hne =>
      split at hq
      · next hkey => rw [← entry?_congr hp hne hkey, h, Option.isSome_some]
      · exact hq

theorem extend_cases (f : Files) (path text : String) :
    f.extend path text = f ∨ ∃ p old new, f.entry? p = some (.file old) ∧
      f.extend path text = f.put p (.file new) := by
  unfold extend
  cases hl : f.lookUp path with
  | none => exact .inl rfl
  | some x =>
    cases x with
    | directory => exact .inl rfl
    | file old =>
      obtain ⟨p, hp, hx⟩ := lookUp_eq_some_iff.mp hl
      exact .inr ⟨p, old, old ++ text, hx, by simp [append, edit, hp, hx, bind, Except.bind,
        Except.toOption]⟩

theorem exists?_extend (f : Files) (path path' text : String) :
    (f.extend path text).exists? path' = f.exists? path' := by
  rcases extend_cases f path text with heq | ⟨p, old, new, hp, heq⟩
  · rw [heq]
  · rw [heq, Bool.eq_iff_iff]
    exact ⟨(put_grows hp (by simp) (by simp)).exists?, (grows_put (by simp [hp])).exists?⟩

theorem isDirectoryAt_iff :
    f.isDirectoryAt cs = true ↔ ∃ p, f.walkFromRoot cs = .ok p ∧ f.entry? p = some .directory := by
  unfold isDirectoryAt
  cases f.walkFromRoot cs <;> simp

theorem makeDirectoryAt_eq_ok (h : f.makeDirectoryAt cs = .ok g) :
    ∃ p, f.walkFromRoot cs = .ok p ∧ f.entry? p = none ∧ g = f.put p .directory := by
  unfold makeDirectoryAt at h
  cases hp : f.walkFromRoot cs with
  | error e => simp [hp, bind, Except.bind] at h
  | ok p =>
    simp only [hp, bind, Except.bind] at h
    split at h
    · cases h
    · next hx =>
      cases h
      exact ⟨p, rfl, by simpa using hx, rfl⟩

theorem makeDirectoryAt_spec (h : f.makeDirectoryAt cs = .ok g) :
    Grows f g ∧ g.isDirectoryAt cs = true := by
  obtain ⟨p, hp, hnone, rfl⟩ := makeDirectoryAt_eq_ok h
  have hgrows : Grows f (f.put p .directory) := grows_put fun _ => rfl
  refine ⟨hgrows, isDirectoryAt_iff.mpr ⟨p, hgrows.walkFromRoot hp, ?_⟩⟩
  rw [entry?_put, if_neg (ne_nil_of_not_directory (f := f) (by simp [hnone])), if_pos rfl]

theorem ensureDirectoryAt_spec (h : f.ensureDirectoryAt cs = .ok g) :
    Grows f g ∧ g.isDirectoryAt cs = true := by
  unfold ensureDirectoryAt at h
  split at h
  · next hmade =>
    cases h
    exact makeDirectoryAt_spec hmade
  · split at h
    · next hthere =>
      cases h
      exact ⟨.refl f, hthere⟩
    · cases h

theorem makeDirectoriesAt_spec (h : f.makeDirectoriesAt cs = .ok g) :
    Grows f g ∧ g.isDirectoryAt cs.reverse = true := by
  induction cs generalizing f g with
  | nil =>
    cases h
    exact ⟨.refl f, by simp [isDirectoryAt, walkFromRoot, walk, entry?]⟩
  | cons c cs ih =>
    unfold makeDirectoriesAt at h
    split at h
    · next hmade =>
      cases h
      exact ensureDirectoryAt_spec hmade
    · -- the directory above was missing and is made first
      cases habove : f.makeDirectoriesAt cs with
      | error e => simp [habove, bind, Except.bind] at h
      | ok f' =>
        simp only [habove, bind, Except.bind] at h
        obtain ⟨hgrows, hthere⟩ := ensureDirectoryAt_spec h
        exact ⟨(ih habove).1.trans hgrows, hthere⟩
    · cases h

theorem makeDirectory_spec (h : f.makeDirectory path = .ok g) :
    Grows f g ∧ g.exists? path = true := by
  obtain ⟨hgrows, hthere⟩ := makeDirectoryAt_spec h
  obtain ⟨p, hp, hx⟩ := isDirectoryAt_iff.mp hthere
  exact ⟨hgrows, exists?_iff.mpr ⟨p, hp, by rw [hx, Option.isSome_some]⟩⟩

theorem makeDirectories_spec (h : f.makeDirectories path = .ok g) :
    Grows f g ∧ g.isDirectoryAt (Path.components path) = true := by
  obtain ⟨hgrows, hthere⟩ := makeDirectoriesAt_spec h
  rw [List.reverse_reverse] at hthere
  exact ⟨hgrows, hthere⟩

theorem walk_concat {c : String} (h : f.walk p (cs ++ [c]) = .ok q) :
    ∃ p', f.walk p cs = .ok p' ∧ f.entry? p' = some .directory := by
  induction cs generalizing p with
  | nil => exact ⟨p, rfl, (walk_cons_eq_ok.mp h).1⟩
  | cons d cs ih =>
    obtain ⟨hp, p₁, ha, hw⟩ := walk_cons_eq_ok.mp h
    obtain ⟨p', hw', hx⟩ := ih hw
    exact ⟨p', walk_cons_eq_ok.mpr ⟨hp, p₁, ha, hw'⟩, hx⟩

theorem exists?_of_concat {c : String} (h : f.isDirectoryAt (Path.components path ++ [c]) = true) :
    f.exists? path = true := by
  obtain ⟨q, hq, -⟩ := isDirectoryAt_iff.mp h
  unfold walkFromRoot at hq
  split at hq
  · cases hq
  · next hnul =>
    obtain ⟨p, hp, hx⟩ := walk_concat hq
    refine exists?_iff.mpr ⟨p, ?_, by rw [hx, Option.isSome_some]⟩
    rw [List.any_append, Bool.or_eq_true, not_or] at hnul
    unfold locate walkFromRoot
    rw [if_neg hnul.1, hp]

theorem makeDirectories_join_spec {name : String} (hn : isLabel name = true)
    (h : f.makeDirectories (Path.join path name) = .ok g) :
    Grows f g ∧ g.exists? path = true := by
  obtain ⟨hgrows, hthere⟩ := makeDirectories_spec h
  rw [Path.components_join hn] at hthere
  exact ⟨hgrows, exists?_of_concat hthere⟩

theorem exists?_remove_of_makeDirectory (h : f.makeDirectory path = .ok g) (f' : Files) :
    (f'.remove path).exists? path = false := by
  obtain ⟨p, hp, hnone, -⟩ := makeDirectoryAt_eq_ok h
  refine exists?_remove fun q hq => ?_
  obtain rfl : p = q := locate_unique hp hq
  exact ne_nil_of_not_directory (f := f) (by simp [hnone])

end Files

end Testbed
