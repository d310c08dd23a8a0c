import Testbed.Proofs.Presence

/-!
Composites, told by what their members answer. Members are asked in order, up to the first failure
or to the first answer that settles the matter; the others are not asked. Sums are added up place by
place, so that each belongs to the name at its place.
-/
namespace Testbed.Metrics

section Asking

variable {S M α β γ : Type}

/-- Members are asked one after another. Each answer is taken in, which may settle the matter, and a
failure ends it. -/
def askEach (ask : M → Act S α) (take : β → α → γ ⊕ β) (finish : β → γ) : β → List M → Act S γ
  | b, [] => pure (finish b)
  | b, m :: ms => do
    match take b (← ask m) with
    | .inl c => pure c
    | .inr b => askEach ask take finish b ms

def answers (ask : M → Act S α) : List M → S → List (Except Failure α)
  | [], _ => []
  | m :: ms, s => (ask m s).1 :: answers ask ms ((ask m).after s)

def afterAll (ask : M → Act S α) (ms : List M) (s : S) : S :=
  ms.foldl (fun s m => (ask m).after s) s

/-- What answers come to, and how many of them are taken in. -/
def settle (take : β → α → γ ⊕ β) (finish : β → γ) :
    β → List (Except Failure α) → Except Failure γ × Nat
  | b, [] => (.ok (finish b), 0)
  | _, .error f :: _ => (.error f, 1)
  | b, .ok a :: as =>
    match take b a with
    | .inl c => (.ok c, 1)
    | .inr b => ((settle take finish b as).1, (settle take finish b as).2 + 1)

def noted (ask : M → Act S α) (m : M) : Act (S × List M) α := fun p =>
  let (r, s) := ask m p.1
  (r, (s, p.2 ++ [m]))

variable {ask : M → Act S α} {take : β → α → γ ⊕ β} {finish : β → γ}

theorem askEach_eq (b : β) (ms : List M) (s : S) :
    askEach ask take finish b ms s =
      ((settle take finish b (answers ask ms s)).1,
        afterAll ask (ms.take (settle take finish b (answers ask ms s)).2) s) := by
  induction ms generalizing b s with
  | nil => rfl
  | cons m ms ih =>
    have hm : ask m s = ((ask m s).1, (ask m).after s) := rfl
    rw [askEach, answers]
    cases ha : (ask m s).1 with
    | error f =>
      rw [ha] at hm
      rw [Act.bind_error hm]
      rfl
    | ok a =>
      rw [ha] at hm
      rw [Act.bind_ok hm, settle]
      cases take b a with
      | inl c => rfl
      | inr b => exact ih b _

theorem answers_noted (ms : List M) (s : S) (notes : List M) :
    answers (noted ask) ms (s, notes) = answers ask ms s := by
  induction ms generalizing s notes with
  | nil => rfl
  | cons m ms ih => exact congrArg (_ :: ·) (ih _ _)

theorem afterAll_noted (ms : List M) (s : S) (notes : List M) :
    afterAll (noted ask) ms (s, notes) = (afterAll ask ms s, notes ++ ms) := by
  induction ms generalizing s notes with
  | nil => rw [List.append_nil]; rfl
  | cons m ms ih => exact (ih _ _).trans (by rw [List.append_assoc]; rfl)

theorem askEach_noted (b : β) (ms : List M) (s : S) :
    askEach (noted ask) take finish b ms (s, []) =
      ((settle take finish b (answers ask ms s)).1,
        (afterAll ask (ms.take (settle take finish b (answers ask ms s)).2) s,
          ms.take (settle take finish b (answers ask ms s)).2)) := by
  rw [askEach_eq, answers_noted, afterAll_noted, List.nil_append]

theorem length_answers (ask : M → Act S α) (ms : List M) (s : S) :
    (answers ask ms s).length = ms.length := by
  induction ms generalizing s with
  | nil => rfl
  | cons m ms ih => exact congrArg (· + 1) (ih _)

theorem getElem?_answers (ask : M → Act S α) (ms : List M) (s : S) (k : Nat) :
    (answers ask ms s)[k]? = ms[k]?.map fun m => (ask m (afterAll ask (ms.take k) s)).1 := by
  induction ms generalizing s k with
  | nil => rfl
  | cons m ms ih =>
    cases k with
    | zero => rfl
    | succ k => exact ih _ k

variable (finish) in
theorem settle_append (next : β → α → β) {as : List α}
    (h : ∀ a ∈ as, ∀ b, take b a = .inr (next b a)) (b : β) (rest : List (Except Failure α)) :
    settle take finish b (as.map .ok ++ rest) =
      ((settle take finish (as.foldl next b) rest).1,
        as.length + (settle take finish (as.foldl next b) rest).2) := by
  induction as generalizing b with
  | nil => simp
  | cons a as ih =>
    obtain ⟨ha, has⟩ := List.forall_mem_cons.mp h
    rw [List.map_cons, List.cons_append, settle, ha b]
    dsimp only
    rw [ih has, List.foldl_cons, List.length_cons]
    dsimp only
    rw [Nat.add_right_comm]

theorem all_ok_or_first_error (rs : List (Except Failure α)) :
    (∃ as : List α, rs = as.map .ok) ∨
      ∃ (as : List α) (f : Failure) (rest : List (Except Failure α)),
        rs = as.map .ok ++ .error f :: rest := by
  induction rs with
  | nil => exact .inl ⟨[], rfl⟩
  | cons r rs ih =>
    cases r with
    | error f => exact .inr ⟨[], f, rs, rfl⟩
    | ok a =>
      rcases ih with ⟨as, rfl⟩ | ⟨as, f, rest, rfl⟩
      · exact .inl ⟨a :: as, rfl⟩
      · exact .inr ⟨a :: as, f, rest, rfl⟩

end Asking

section Member

variable {σ κ : Type} {net : Network σ} {m : Instrumented} {s : Selection} {e : Environment σ κ}

theorem families_after (net : Network σ) (m : Instrumented) :
    (families net m).after = (scrape net m).after (S := Environment σ κ) := by
  refine Act.after_bind fun text e => ?_
  simp only [bind, Act.asks, Act.after]
  cases parse text <;> rfl

theorem sumsOf_after (net : Network σ) (m : Instrumented) (names : List String) (s : Selection) :
    (sumsOf net m names s).after = (scrape net m).after (S := Environment σ κ) :=
  (Act.after_bind fun _ _ => rfl).trans (families_after net m)

theorem exportsOf_after (net : Network σ) (m : Instrumented) (name : String) (s : Selection) :
    (exportsOf net m name s).after = (scrape net m).after (S := Environment σ κ) :=
  (Act.after_bind fun _ _ => rfl).trans (families_after net m)

theorem sumsIn_forall₂ {runnable : String} {fs : Families} {names : List String} {xs : List Float}
    (h : sumsIn runnable s fs names = .ok xs) :
    List.Forall₂ (fun name x => sumsIn runnable s fs [name] = .ok [x]) names xs := by
  induction names generalizing xs with
  | nil =>
    cases h
    exact .nil
  | cons name names ih =>
    rw [sumsIn_eq_mapM, List.mapM_cons] at h
    obtain ⟨x, hx, h⟩ := bind_eq_ok.mp h
    obtain ⟨rest, hrest, h⟩ := bind_eq_ok.mp h
    cases h
    rw [← sumsIn_eq_mapM] at hrest
    refine .cons ?_ (ih hrest)
    rw [sumsIn_eq_mapM, List.mapM_cons, hx]
    rfl

theorem sumsOf_forall₂ {names : List String} {xs : List Float}
    (h : (sumsOf net m names s e).1 = .ok xs) :
    List.Forall₂ (fun name x => (sumsOf net m [name] s e).1 = .ok [x]) names xs := by
  rcases hf : families net m e with ⟨f | fs, e'⟩
  · rw [sumsOf, Act.bind_error hf] at h
    cases h
  · rw [sumsOf, Act.bind_ok hf] at h
    refine (sumsIn_forall₂ h).imp fun name x hx => ?_
    rw [sumsOf, Act.bind_ok hf]
    exact hx

theorem afterAll_congr {S M α α' : Type} {ask : M → Act S α} {ask' : M → Act S α'}
    (h : ∀ m, (ask m).after = (ask' m).after) (ms : List M) (s : S) :
    afterAll ask ms s = afterAll ask' ms s := by
  unfold afterAll
  simp only [h]

end Member

def column (i : Nat) (xss : List (List Float)) : List Float := xss.filterMap (·[i]?)

theorem foldl_zipWith (xss : List (List Float)) (zs : List Float)
    (h : ∀ xs ∈ xss, xs.length = zs.length) :
    xss.foldl (List.zipWith (· + ·)) zs =
      zs.mapIdx fun i z => (column i xss).foldl (· + ·) z := by
  induction xss generalizing zs with
  | nil => exact List.ext_getElem? fun i => by simp [column]
  | cons xs xss ih =>
    obtain ⟨hxs, hxss⟩ := List.forall_mem_cons.mp h
    -- A shorter list would cut off the sums of the places it lacks.
    have hlength : (zs.zipWith (· + ·) xs).length = zs.length := by simp [hxs]
    rw [List.foldl_cons, ih _ (by rwa [hlength])]
    refine List.ext_getElem? fun i => ?_
    rw [List.getElem?_mapIdx, List.getElem?_mapIdx, List.getElem?_zipWith]
    rcases Nat.lt_or_ge i zs.length with hi | hi
    · have hi' : i < xs.length := hxs ▸ hi
      simp [column, hi, hi']
    · simp [hi]

section Composites

variable {S M : Type}

def addIn (sums part : List Float) : List Float ⊕ List Float := .inr (sums.zipWith (· + ·) part)

def sumUp (read : M → Act S (List Float)) : List Float → List M → Act S (List Float) :=
  askEach read addIn id

def stopAt (_ : Unit) (found : Bool) : Bool ⊕ Unit := if found then .inl true else .inr ()

def lookUp (look : M → Act S Bool) : List M → Act S Bool :=
  askEach look stopAt (fun _ => false) ()

variable {read : M → Act S (List Float)} {look : M → Act S Bool} {zs : List Float} {ms : List M}
  {st : S}

theorem settle_addIn (zs : List Float) (xss : List (List Float))
    (rest : List (Except Failure (List Float))) :
    settle addIn id zs (xss.map .ok ++ rest) =
      ((settle addIn id (xss.foldl (List.zipWith (· + ·)) zs) rest).1,
        xss.length + (settle addIn id (xss.foldl (List.zipWith (· + ·)) zs) rest).2) :=
  settle_append id (List.zipWith (· + ·)) (fun _ _ _ => rfl) zs rest

theorem settle_stopAt (k : Nat) (rest : List (Except Failure Bool)) :
    settle stopAt (fun _ => false) () (List.replicate k (.ok false) ++ rest) =
      ((settle stopAt (fun _ => false) () rest).1,
        k + (settle stopAt (fun _ => false) () rest).2) := by
  have hfalse : ∀ a ∈ List.replicate k false, ∀ b, stopAt b a = .inr () := by
    intro a ha b
    rw [List.eq_of_mem_replicate ha]
    rfl
  have hsettle := settle_append (fun _ => false) (fun _ _ => ()) hfalse () rest
  rwa [List.map_replicate, List.length_replicate] at hsettle

theorem sumUp_of_ok {xss : List (List Float)} (h : answers read ms st = xss.map .ok) :
    sumUp (noted read) zs ms (st, []) =
      (.ok (xss.foldl (List.zipWith (· + ·)) zs), (afterAll read ms st, ms)) := by
  have hlength := length_answers read ms st
  have hsettle := settle_addIn zs xss []
  rw [List.append_nil, settle] at hsettle
  rw [h, List.length_map] at hlength
  rw [sumUp, askEach_noted, h, hsettle]
  simp [hlength]

theorem sumUp_of_error {xss : List (List Float)} {f : Failure}
    {rest : List (Except Failure (List Float))}
    (h : answers read ms st = xss.map .ok ++ .error f :: rest) :
    sumUp (noted read) zs ms (st, []) =
      (.error f, (afterAll read (ms.take (xss.length + 1)) st, ms.take (xss.length + 1))) := by
  rw [sumUp, askEach_noted, h, settle_addIn, settle]

theorem lookUp_of_decisive {k : Nat} {r : Except Failure Bool} {rest : List (Except Failure Bool)}
    (h : answers look ms st = List.replicate k (.ok false) ++ r :: rest) (hr : r ≠ .ok false) :
    lookUp (noted look) ms (st, []) =
      (r, (afterAll look (ms.take (k + 1)) st, ms.take (k + 1))) := by
  rw [lookUp, askEach_noted, h, settle_stopAt]
  match r with
  | .error f => rfl
  | .ok true => rfl
  | .ok false => exact absurd rfl hr

theorem lookUp_of_none (h : answers look ms st = List.replicate ms.length (.ok false)) :
    lookUp (noted look) ms (st, []) = (.ok false, (afterAll look ms st, ms)) := by
  have hsettle := settle_stopAt ms.length []
  rw [List.append_nil, settle] at hsettle
  rw [lookUp, askEach_noted, h, hsettle]
  simp

theorem settle_stopAt_eq_false_iff (rs : List (Except Failure Bool)) :
    (settle stopAt (fun _ => false) () rs).1 = .ok false ↔ ∀ r ∈ rs, r = .ok false := by
  induction rs with
  | nil => simp [settle]
  | cons r rs ih =>
    match r with
    | .error f => simp [settle]
    | .ok true => simp [settle, stopAt]
    | .ok false => simpa [settle, stopAt] using ih

theorem settle_stopAt_eq_true_iff (rs : List (Except Failure Bool)) :
    (settle stopAt (fun _ => false) () rs).1 = .ok true ↔
      ∃ (before : List Bool) (rest : List (Except Failure Bool)),
        rs = before.map .ok ++ .ok true :: rest := by
  induction rs with
  | nil => simp [settle]
  | cons r rs ih =>
    match r with
    | .error f =>
      refine iff_of_false (fun h => nomatch h) ?_
      rintro ⟨before, rest, h⟩
      cases before <;> cases h
    | .ok true => exact iff_of_true rfl ⟨[], rs, rfl⟩
    | .ok false =>
      refine ih.trans ⟨fun ⟨before, rest, h⟩ => ⟨false :: before, rest, congrArg _ h⟩, ?_⟩
      rintro ⟨before, rest, h⟩
      cases before with
      | nil => cases h
      | cons b before => exact ⟨before, rest, (List.cons.inj h).2⟩

end Composites

section Composites

variable {σ κ : Type} (net : Network σ) (names : List String) (name : String) (s : Selection)

theorem addSums_eq (sums : List Float) (ms : List Instrumented) :
    addSums (κ := κ) net names s sums ms = sumUp (fun m => sumsOf net m names s) sums ms := by
  induction ms generalizing sums with
  | nil => rfl
  | cons m ms ih =>
    rw [addSums, sumUp, askEach]
    exact congrArg _ (funext fun part => ih _)

theorem anyExports_eq (ms : List Instrumented) :
    anyExports (κ := κ) net name s ms = lookUp (fun m => exportsOf net m name s) ms := by
  induction ms with
  | nil => rfl
  | cons m ms ih =>
    rw [anyExports, lookUp, askEach]
    refine congrArg _ (funext fun found => ?_)
    cases found with
    | true => rfl
    | false => exact ih

def notedSums (ms : List Instrumented) (e : Environment σ κ) :
    Except Failure (List Float) × Environment σ κ × List Instrumented :=
  sumUp (noted fun m => sumsOf net m names s) (names.map fun _ => 0.0) ms (e, [])

def notedSearch (ms : List Instrumented) (e : Environment σ κ) :
    Except Failure Bool × Environment σ κ × List Instrumented :=
  lookUp (noted fun m => exportsOf net m name s) ms (e, [])

variable (title : String) (ms : List Instrumented) (e : Environment σ κ)

theorem sums_eq_noted : (Source.composite title ms).sums net names s e =
    ((notedSums net names s ms e).1, (notedSums net names s ms e).2.1) := by
  rw [Source.sums, addSums_eq, notedSums, sumUp, sumUp, askEach_noted, askEach_eq]

theorem exports_eq_noted : (Source.composite title ms).exports net name s e =
    ((notedSearch net name s ms e).1, (notedSearch net name s ms e).2.1) := by
  rw [Source.exports, Source.members, anyExports_eq, notedSearch, lookUp, lookUp, askEach_noted,
    askEach_eq]

theorem isOk_sumUp_iff {S M : Type} {read : M → Act S (List Float)} {zs : List Float} {ms : List M}
    {st : S} : (∃ sums, (sumUp (noted read) zs ms (st, [])).1 = .ok sums) ↔
      ∀ part ∈ answers read ms st, ∃ xs, part = .ok xs := by
  rcases all_ok_or_first_error (answers read ms st) with ⟨xss, h⟩ | ⟨xss, f, rest, h⟩
  · rw [sumUp_of_ok h, h]
    simp
  · rw [sumUp_of_error h, h]
    refine iff_of_false (fun ⟨_, hok⟩ => nomatch hok) fun hall => ?_
    obtain ⟨_, hf⟩ := hall (.error f) (by simp)
    cases hf

variable {net names name s ms e}

theorem afterAll_sumsOf : afterAll (fun m => sumsOf net m names s) ms e =
    afterAll (scrape net) ms e :=
  afterAll_congr (fun m => sumsOf_after net m names s) ms e

theorem afterAll_exportsOf : afterAll (fun m => exportsOf net m name s) ms e =
    afterAll (scrape net) ms e :=
  afterAll_congr (fun m => exportsOf_after net m name s) ms e

theorem forall₂_answers {k : Nat} {m : Instrumented} {part : List Float} (hm : ms[k]? = some m)
    (h : (answers (fun m => sumsOf net m names s) ms e)[k]? = some (.ok part)) :
    List.Forall₂ (fun name x => (sumsOf net m [name] s
      (afterAll (scrape net) (ms.take k) e)).1 = .ok [x]) names part := by
  rw [getElem?_answers, hm, Option.map_some, afterAll_sumsOf] at h
  exact sumsOf_forall₂ (Option.some.inj h)

theorem length_of_answers {xss : List (List Float)}
    (h : answers (fun m => sumsOf net m names s) ms e = xss.map .ok) :
    ∀ part ∈ xss, part.length = names.length := by
  intro part hpart
  obtain ⟨k, hk⟩ := List.getElem?_of_mem hpart
  have hat : (answers (fun m => sumsOf net m names s) ms e)[k]? = some (.ok part) := by
    rw [h, List.getElem?_map, hk]
    rfl
  have hm := hat
  rw [getElem?_answers] at hm
  obtain ⟨m, hm, -⟩ := Option.map_eq_some_iff.mp hm
  exact (forall₂_answers hm hat).length_eq.symm

theorem notedSums_of_ok {xss : List (List Float)}
    (h : answers (fun m => sumsOf net m names s) ms e = xss.map .ok) :
    ∃ xs, notedSums net names s ms e = (.ok xs, (afterAll (scrape net) ms e, ms)) ∧
      xs.length = names.length ∧
      ∀ i < names.length, xs[i]? = some ((column i xss).foldl (· + ·) 0.0) := by
  have hzeros : ∀ part ∈ xss, part.length = (names.map fun _ => (0.0 : Float)).length := by
    simpa using length_of_answers h
  refine ⟨_, (sumUp_of_ok h).trans (by rw [afterAll_sumsOf]), ?_, fun i hi => ?_⟩
  · rw [foldl_zipWith _ _ hzeros, List.length_mapIdx, List.length_map]
  · rw [foldl_zipWith _ _ hzeros, List.getElem?_mapIdx, List.getElem?_map,
      List.getElem?_eq_getElem hi]
    rfl

end Composites

/-- A composite has sums exactly if all members have, and then each is the sum of theirs at its
place, from zero on; else it fails as the first member does that fails. It has a metric exactly if
a member has it and all before it answer. Either way each member is scraped once, in order, up to
the one that decides, and none after it. -/
theorem composite_by_members {σ κ : Type} (net : Network σ) (names : List String) (name : String)
    (s : Selection) (title : String) (ms : List Instrumented) (e : Environment σ κ) :
    let reached := fun k => afterAll (scrape net) (ms.take k) e
    let parts := answers (fun m => sumsOf net m names s) ms e
    let found := answers (fun m => exportsOf net m name s) ms e
    let sums := notedSums net names s ms e
    let search := notedSearch net name s ms e
    (Source.composite title ms).sums net names s e = (sums.1, sums.2.1) ∧
    (Source.composite title ms).exports net name s e = (search.1, search.2.1) ∧
    ((∃ xs, sums.1 = .ok xs) ↔ ∀ part ∈ parts, ∃ xs, part = .ok xs) ∧
    (∀ xss : List (List Float), parts = xss.map .ok →
      ∃ xs, sums = (.ok xs, (reached ms.length, ms)) ∧ xs.length = names.length ∧
        (∀ part ∈ xss, part.length = names.length) ∧
        ∀ i < names.length, xs[i]? = some ((column i xss).foldl (· + ·) 0.0)) ∧
    (∀ k m part, ms[k]? = some m → parts[k]? = some (.ok part) →
      List.Forall₂ (fun name x => (sumsOf net m [name] s (reached k)).1 = .ok [x]) names part) ∧
    (∀ (xss : List (List Float)) f rest, parts = xss.map .ok ++ .error f :: rest →
      sums = (.error f, (reached (xss.length + 1), ms.take (xss.length + 1)))) ∧
    (search.1 = .ok true ↔
      ∃ (before : List Bool) (rest : _), found = before.map .ok ++ .ok true :: rest) ∧
    (∀ k r rest, found = List.replicate k (.ok false) ++ r :: rest → r ≠ .ok false →
      search = (r, (reached (k + 1), ms.take (k + 1)))) ∧
    (found = List.replicate ms.length (.ok false) →
      search = (.ok false, (reached ms.length, ms))) := by
  intro reached parts found sums search
  have hwhole : reached ms.length = afterAll (scrape net) ms e := by
    simp only [reached, List.take_length]
  refine ⟨sums_eq_noted net names s title ms e, exports_eq_noted net name s title ms e,
    isOk_sumUp_iff, fun xss h => ?_, fun k m part => forall₂_answers, fun xss f rest h => ?_, ?_,
    fun k r rest h hr => ?_, fun h => ?_⟩
  · obtain ⟨xs, hxs, hlength, hat⟩ := notedSums_of_ok h
    exact ⟨xs, hxs.trans (by rw [hwhole]), hlength, length_of_answers h, hat⟩
  · exact (sumUp_of_error h).trans (by rw [afterAll_sumsOf])
  · rw [← settle_stopAt_eq_true_iff]
    simp only [search, notedSearch, lookUp, askEach_noted, found]
  · exact (lookUp_of_decisive h hr).trans (by rw [afterAll_exportsOf])
  · exact (lookUp_of_none h).trans (by rw [afterAll_exportsOf, hwhole])

theorem ok_of_toOption {α : Type} {r : Except Failure α} {a : α} (h : r.toOption = some a) :
    r = .ok a := by
  cases r with
  | error => cases h
  | ok => cases h; rfl

theorem map_ok_of_toOption {α : Type} {rs : List (Except Failure α)} {as : List α}
    (h : rs.map (·.toOption) = as.map some) : rs = as.map .ok := by
  induction as generalizing rs with
  | nil => exact List.map_eq_nil_iff.mp h
  | cons a as ih =>
    obtain ⟨r, rs, rfl, hr, hrs⟩ := List.map_eq_cons_iff.mp h
    rw [ok_of_toOption hr, ih hrs, List.map_cons]

theorem exists_error_of_toOption {α : Type} {rs : List (Except Failure α)} {as : List α}
    {rest : List (Option α)} (h : rs.map (·.toOption) = as.map some ++ none :: rest) :
    ∃ f rest, rs = as.map .ok ++ .error f :: rest := by
  obtain ⟨before, after, rfl, hbefore, hafter⟩ := List.map_eq_append_iff.mp h
  obtain ⟨r, after, rfl, hr, -⟩ := List.map_eq_cons_iff.mp hafter
  rw [map_ok_of_toOption hbefore]
  cases r with
  | error f => exact ⟨f, after, rfl⟩
  | ok => cases hr

theorem composite_by_members_pair : ∃ e : Environment StandIn.State String,
    e.Reachable StandIn.backend pairedNetwork ∧
    (∃ e', notedSums pairedNetwork ["n", "n"] (selecting []) (pair ++ pair) e =
      (.ok [10.0, 10.0], e', pair ++ pair)) ∧
    (∃ f e', notedSums pairedNetwork ["n", "m"] (selecting []) (pair ++ pair) e =
      (.error f, e', pair)) ∧
    ∃ e', notedSearch pairedNetwork "m" (selecting []) (pair ++ pair) e =
      (.ok true, e', pair.take 1) := by
  let parts := fun (names : List String) (e : Environment StandIn.State String) =>
    answers (fun m => sumsOf pairedNetwork m names (selecting [])) (pair ++ pair) e
  obtain ⟨e, hr, hp⟩ := Environment.exists_reachable StandIn.backend pairedNetwork (.ofName "bed")
    "/tmp" "Ab3dE9" pairedWorld
    [.initialise ⟨"one", .ofList [("http", 80)]⟩ (.ofImage "image"), .start 0,
      .initialise ⟨"two", .ofList [("http", 80)]⟩ (.ofImage "image"), .start 1]
    (fun e =>
      (parts ["n", "n"] e).map (·.toOption) =
        [[2.0, 2.0], [3.0, 3.0], [2.0, 2.0], [3.0, 3.0]].map some ∧
      (parts ["n", "m"] e).map (·.toOption) =
        [[2.0, 1.0]].map some ++ none :: [some [2.0, 1.0], none] ∧
      (exportsOf pairedNetwork ⟨0, ⟨"http", "/metrics", .http⟩⟩ "m" (selecting []) e).1.toOption =
        some true) (by decide +kernel)
  obtain ⟨hall, hsome, hfound⟩ := of_decide_eq_true hp
  refine ⟨e, hr, ?_, ?_, ?_⟩
  · obtain ⟨-, -, -, hsums, -⟩ := composite_by_members pairedNetwork ["n", "n"] "n" (selecting [])
      "service" (pair ++ pair) e
    obtain ⟨xs, hxs, hlength, -, hat⟩ := hsums _ (map_ok_of_toOption hall)
    obtain ⟨x, y, rfl⟩ := List.length_eq_two.mp hlength
    have hx : x = 10.0 := (Option.some.inj (hat 0 (by decide))).trans (by decide +kernel)
    have hy : y = 10.0 := (Option.some.inj (hat 1 (by decide))).trans (by decide +kernel)
    rw [hx, hy] at hxs
    exact ⟨_, hxs⟩
  · obtain ⟨-, -, -, -, -, hsums, -⟩ := composite_by_members pairedNetwork ["n", "m"] "n"
      (selecting []) "service" (pair ++ pair) e
    obtain ⟨f, rest, hfirst⟩ := exists_error_of_toOption hsome
    exact ⟨f, _, hsums _ f rest hfirst⟩
  · obtain ⟨-, -, -, -, -, -, -, hsearch, -⟩ := composite_by_members pairedNetwork ["n"] "m"
      (selecting []) "service" (pair ++ pair) e
    exact ⟨_, hsearch 0 (.ok true) _ (congrArg (· :: _) (ok_of_toOption hfound))
      (fun h => nomatch h)⟩

end Testbed.Metrics
