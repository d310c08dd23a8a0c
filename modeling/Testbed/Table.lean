/-!
Finite maps from text keys, kept as entries in strictly rising key order. Two tables with the
same entries are equal, so a table can itself be compared and looked for.
-/
namespace Testbed

variable {α β : Type}

abbrev Rising (entries : List (String × α)) : Prop := entries.Pairwise fun a b => a.1 < b.1

structure Table (α : Type) where
  entries : List (String × α)
  rising : Rising entries

namespace Table

def empty : Table α := ⟨[], .nil⟩

instance : EmptyCollection (Table α) := ⟨empty⟩
instance : Inhabited (Table α) := ⟨empty⟩

instance [DecidableEq α] : DecidableEq (Table α) := fun a b =>
  decidable_of_iff (a.entries = b.entries) (by cases a; cases b; simp)

def place (k : String) (v : α) : List (String × α) → List (String × α)
  | [] => [(k, v)]
  | e :: r => if k < e.1 then (k, v) :: e :: r else if k = e.1 then (k, v) :: r else e :: place k v r

theorem mem_place {k : String} {v : α} {entries : List (String × α)} {e : String × α}
    (h : e ∈ place k v entries) : e = (k, v) ∨ e ∈ entries := by
  induction entries with
  | nil => simpa [place] using h
  | cons d r ih =>
    simp only [place] at h
    split at h
    · simpa using h
    · split at h
      · rcases List.mem_cons.1 h with h | h <;> simp [h]
      · rcases List.mem_cons.1 h with h | h
        · simp [h]
        · rcases ih h with h | h <;> simp [h]

theorem rising_place (k : String) (v : α) {entries : List (String × α)} (h : Rising entries) :
    Rising (place k v entries) := by
  induction entries with
  | nil => simp [place, Rising]
  | cons d r ih =>
    have hd : ∀ {e}, e ∈ r → d.1 < e.1 := fun he => List.rel_of_pairwise_cons h he
    simp only [place]
    split
    · next hk =>
      refine List.pairwise_cons.2 ⟨?_, h⟩
      intro e he
      rcases List.mem_cons.1 he with he | he
      · exact he ▸ hk
      · exact String.lt_trans hk (hd he)
    · split
      · next hk => exact List.pairwise_cons.2 ⟨fun e he => hk ▸ hd he, h.of_cons⟩
      · next hk hne =>
        refine List.pairwise_cons.2 ⟨?_, ih h.of_cons⟩
        intro e he
        rcases mem_place he with he | he
        · exact he ▸ Std.lt_of_le_of_ne (String.not_lt.1 hk) (Ne.symm hne)
        · exact hd he

def insert (k : String) (v : α) (t : Table α) : Table α :=
  ⟨place k v t.entries, rising_place k v t.rising⟩

def ofList (pairs : List (String × α)) : Table α :=
  pairs.foldl (fun t p => t.insert p.1 p.2) empty

def get? (k : String) (t : Table α) : Option α :=
  (t.entries.find? fun e => e.1 == k).map (·.2)

def contains (k : String) (t : Table α) : Bool := t.entries.any fun e => e.1 == k

def filterKeys (keep : String → Bool) (t : Table α) : Table α :=
  ⟨t.entries.filter fun e => keep e.1, t.rising.filter _⟩

def erase (k : String) (t : Table α) : Table α := t.filterKeys (· != k)

def keys (t : Table α) : List String := t.entries.map (·.1)

def values (t : Table α) : List α := t.entries.map (·.2)

def size (t : Table α) : Nat := t.entries.length

def isEmpty (t : Table α) : Bool := t.entries.isEmpty

def map (f : String → α → β) (t : Table α) : Table β :=
  ⟨t.entries.map fun e => (e.1, f e.1 e.2), List.pairwise_map.2 t.rising⟩

def mapEntries {ε : Type} (f : String → α → Except ε β) :
    List (String × α) → Except ε (List (String × β))
  | [] => .ok []
  | (k, v) :: r => do
    let w ← f k v
    return (k, w) :: (← mapEntries f r)

theorem keys_mapEntries {ε : Type} {f : String → α → Except ε β} {entries : List (String × α)}
    {out : List (String × β)} (h : mapEntries f entries = .ok out) :
    out.map (·.1) = entries.map (·.1) := by
  induction entries generalizing out with
  | nil =>
    cases h
    rfl
  | cons e r ih =>
    obtain ⟨k, v⟩ := e
    simp only [mapEntries, bind, Except.bind] at h
    cases hv : f k v with
    | error e => simp [hv] at h
    | ok w =>
      cases hr : mapEntries f r with
      | error e => simp [hv, hr] at h
      | ok rest =>
        simp only [hv, hr, pure, Except.pure, Except.ok.injEq] at h
        simp [← h, ih hr]

theorem rising_of_keys {a : List (String × α)} {b : List (String × β)} (ha : Rising a)
    (h : b.map (·.1) = a.map (·.1)) : Rising b := by
  have hb : (b.map (·.1)).Pairwise (· < ·) := by
    rw [h]
    exact List.pairwise_map.2 ha
  exact List.pairwise_map.1 hb

def mapM {ε : Type} (f : String → α → Except ε β) (t : Table α) : Except ε (Table β) :=
  match h : mapEntries f t.entries with
  | .error e => .error e
  | .ok entries => .ok ⟨entries, rising_of_keys t.rising (keys_mapEntries h)⟩

theorem keys_mapM {ε : Type} {f : String → α → Except ε β} {t : Table α} {u : Table β}
    (h : t.mapM f = .ok u) : u.keys = t.keys := by
  unfold mapM at h
  split at h
  · cases h
  · next hentries =>
    cases h
    exact keys_mapEntries hentries

@[simp] theorem keys_map (f : String → α → β) (t : Table α) : (t.map f).keys = t.keys := by
  simp [keys, map]

@[ext] theorem ext {a b : Table α} (h : a.entries = b.entries) : a = b := by
  cases a; cases b; simpa using h

theorem find?_place (k k' : String) (v : α) (entries : List (String × α)) :
    (place k v entries).find? (fun e => e.1 == k') =
      if k = k' then some (k, v) else entries.find? fun e => e.1 == k' := by
  induction entries with
  | nil => by_cases h : k = k' <;> simp [place, h]
  | cons e r ih =>
    simp only [place]
    split
    · by_cases h : k = k' <;> simp [h]
    · split
      · next he => by_cases h : k = k' <;> simp [h, ← he]
      · next he =>
        rw [List.find?_cons, ih, List.find?_cons]
        by_cases h : k = k'
        · have hne : (e.1 == k') = false := beq_eq_false_iff_ne.mpr fun hk => he (h.trans hk.symm)
          simp [h, hne]
        · simp [h]

@[simp] theorem get?_empty (k : String) : (empty : Table α).get? k = none := rfl

theorem get?_insert (k k' : String) (v : α) (t : Table α) :
    (t.insert k v).get? k' = if k = k' then some v else t.get? k' := by
  simp only [get?, insert, find?_place]
  split <;> rfl

theorem contains_eq (k : String) (t : Table α) : t.contains k = (t.get? k).isSome := by
  rw [contains, get?, Option.isSome_map, List.isSome_find?]

theorem get?_filterKeys (keep : String → Bool) (k : String) (t : Table α) :
    (t.filterKeys keep).get? k = if keep k then t.get? k else none := by
  have hfind : (t.filterKeys keep).entries.find? (fun e => e.1 == k) =
      if keep k then t.entries.find? fun e => e.1 == k else none := by
    rw [filterKeys, List.find?_filter]
    cases hk : keep k with
    | true =>
      refine congrArg (t.entries.find? ·) (funext fun e => ?_)
      by_cases he : e.1 = k
      · simp [he, hk]
      · simp [he]
    | false =>
      refine List.find?_eq_none.2 fun e _ he => ?_
      obtain ⟨hkeep, rfl⟩ : keep e.1 = true ∧ e.1 = k := by simpa using he
      rw [hk] at hkeep
      cases hkeep
  rw [get?, hfind]
  split <;> rfl

theorem get?_erase (k k' : String) (t : Table α) :
    (t.erase k).get? k' = if k = k' then none else t.get? k' := by
  rw [erase, get?_filterKeys]
  by_cases h : k = k'
  · simp [h]
  · simp [h, Ne.symm h]

theorem find?_of_mem {entries : List (String × α)} (h : Rising entries) {e : String × α}
    (he : e ∈ entries) : entries.find? (fun d => d.1 == e.1) = some e := by
  induction entries with
  | nil => cases he
  | cons d r ih =>
    rcases List.mem_cons.1 he with rfl | he
    · simp
    · have hlt : d.1 < e.1 := List.rel_of_pairwise_cons h he
      have hne : (d.1 == e.1) = false := beq_eq_false_iff_ne.mpr (Std.ne_of_lt hlt)
      rw [List.find?_cons, hne]
      exact ih h.of_cons he

theorem mem_entries_iff {k : String} {v : α} {t : Table α} :
    (k, v) ∈ t.entries ↔ t.get? k = some v := by
  constructor
  · intro h
    rw [get?, find?_of_mem t.rising h]
    rfl
  · intro h
    obtain ⟨e, he, rfl⟩ := Option.map_eq_some_iff.1 h
    have hk : e.1 = k := by simpa using List.find?_some he
    exact hk ▸ List.mem_of_find?_eq_some he

theorem eq_of_mem_iff {a b : List (String × α)} (ha : Rising a) (hb : Rising b)
    (h : ∀ e, e ∈ a ↔ e ∈ b) : a = b := by
  induction a generalizing b with
  | nil => exact (List.eq_nil_iff_forall_not_mem.2 fun e he => nomatch (h e).2 he).symm
  | cons x r ih =>
    cases b with
    | nil => cases (h x).1 List.mem_cons_self
    | cons y s =>
      have hxy : x = y := by
        rcases List.mem_cons.1 ((h x).1 List.mem_cons_self) with hx | hx
        · exact hx
        · rcases List.mem_cons.1 ((h y).2 List.mem_cons_self) with hy | hy
          · exact hy.symm
          · exact absurd (String.lt_trans (List.rel_of_pairwise_cons ha hy)
              (List.rel_of_pairwise_cons hb hx)) (String.lt_irrefl _)
      subst hxy
      refine congrArg (x :: ·) (ih ha.of_cons hb.of_cons fun e => ⟨fun he => ?_, fun he => ?_⟩)
      · rcases List.mem_cons.1 ((h e).1 (List.mem_cons_of_mem x he)) with rfl | hs
        · exact absurd (List.rel_of_pairwise_cons ha he) (String.lt_irrefl _)
        · exact hs
      · rcases List.mem_cons.1 ((h e).2 (List.mem_cons_of_mem x he)) with rfl | hr
        · exact absurd (List.rel_of_pairwise_cons hb he) (String.lt_irrefl _)
        · exact hr

theorem ext_get? {a b : Table α} (h : ∀ k, a.get? k = b.get? k) : a = b := by
  refine ext (eq_of_mem_iff a.rising b.rising fun e => ?_)
  rw [mem_entries_iff, mem_entries_iff, h]

theorem insert_of_get? {k : String} {v : α} {t : Table α} (h : t.get? k = some v) :
    t.insert k v = t := by
  refine ext_get? fun k' => ?_
  rw [get?_insert]
  split
  · next hk => rw [← hk, h]
  · rfl

theorem ofList_concat (pairs : List (String × α)) (p : String × α) :
    ofList (pairs ++ [p]) = (ofList pairs).insert p.1 p.2 := by
  simp [ofList]

theorem get?_foldl_insert {pairs : List (String × α)} {k : String} {v : α}
    (h : ∀ p ∈ pairs, ∀ q ∈ pairs, p.1 = q.1 → p.2 = q.2) (t : Table α) :
    (pairs.foldl (fun t p => t.insert p.1 p.2) t).get? k = some v ↔
      (k, v) ∈ pairs ∨ (∀ p ∈ pairs, p.1 ≠ k) ∧ t.get? k = some v := by
  induction pairs generalizing t with
  | nil => simp
  | cons p r ih =>
    have hrest : ∀ q ∈ r, ∀ q' ∈ r, q.1 = q'.1 → q.2 = q'.2 := fun q hq q' hq' =>
      h q (List.mem_cons_of_mem p hq) q' (List.mem_cons_of_mem p hq')
    have hr := ih hrest (t.insert p.1 p.2)
    rw [List.foldl_cons, hr, get?_insert]
    by_cases hp : p.1 = k
    · constructor
      · rintro (hm | ⟨-, hv⟩)
        · exact .inl (List.mem_cons_of_mem p hm)
        · rw [if_pos hp] at hv
          exact .inl (List.mem_cons.2 (.inl (Prod.ext hp.symm (Option.some.inj hv).symm)))
      · rintro (hm | ⟨hne, -⟩)
        · have hv : p.2 = v := h p List.mem_cons_self _ hm hp
          by_cases hk : ∀ q ∈ r, q.1 ≠ k
          · exact .inr ⟨hk, by rw [if_pos hp, hv]⟩
          · have ⟨q, hq⟩ : ∃ q, (k, q) ∈ r := by simpa using hk
            have hqv : q = v := h (k, q) (List.mem_cons_of_mem p hq) _ hm rfl
            exact .inl (hqv ▸ hq)
        · exact absurd hp (hne p List.mem_cons_self)
    · have hkp : (k, v) ≠ p := fun heq => hp (congrArg Prod.fst heq).symm
      simp [hp, hkp]

theorem get?_ofList {pairs : List (String × α)} {k : String} {v : α}
    (h : ∀ p ∈ pairs, ∀ q ∈ pairs, p.1 = q.1 → p.2 = q.2) :
    (ofList pairs).get? k = some v ↔ (k, v) ∈ pairs := by
  rw [ofList, get?_foldl_insert h]
  simp

theorem mem_keys_iff {k : String} {t : Table α} : k ∈ t.keys ↔ ∃ v, t.get? k = some v := by
  constructor
  · intro h
    obtain ⟨⟨k', v⟩, he, rfl⟩ := List.mem_map.1 h
    exact ⟨v, mem_entries_iff.1 he⟩
  · rintro ⟨v, hv⟩
    exact List.mem_map.2 ⟨(k, v), mem_entries_iff.2 hv, rfl⟩

theorem contains_eq_true_iff {k : String} {t : Table α} : t.contains k = true ↔ k ∈ t.keys := by
  rw [contains_eq, Option.isSome_iff_exists, mem_keys_iff]

theorem nodup_keys (t : Table α) : (t.entries.map (·.1)).Nodup :=
  List.pairwise_map.2 (t.rising.imp Std.ne_of_lt)

theorem eq_of_nodup_keys {pairs : List (String × α)} (h : (pairs.map (·.1)).Nodup) :
    ∀ p ∈ pairs, ∀ q ∈ pairs, p.1 = q.1 → p.2 = q.2 := by
  induction pairs with
  | nil => simp
  | cons e r ih =>
    obtain ⟨he, hr⟩ := List.nodup_cons.1 h
    have hne : ∀ q ∈ r, e.1 ≠ q.1 := fun q hq heq => he (List.mem_map.2 ⟨q, hq, heq.symm⟩)
    intro p hp q hq hk
    rcases List.mem_cons.1 hp with rfl | hp' <;> rcases List.mem_cons.1 hq with rfl | hq'
    · rfl
    · exact absurd hk (hne q hq')
    · exact absurd hk.symm (hne p hp')
    · exact ih hr p hp' q hq' hk

theorem ofList_of_perm {pairs : List (String × α)} {t : Table α} (h : pairs.Perm t.entries) :
    ofList pairs = t := by
  have hnodup : (pairs.map (·.1)).Nodup := (h.map _).nodup_iff.2 t.nodup_keys
  refine ext_get? fun k => Option.ext fun v => ?_
  rw [get?_ofList (eq_of_nodup_keys hnodup), h.mem_iff, mem_entries_iff]

theorem nodup_keys_cons {k : String} {t : Table α} (hk : t.get? k = none) (v : α) :
    (((k, v) :: t.entries).map (·.1)).Nodup := by
  refine List.nodup_cons.2 ⟨fun hmem => ?_, t.nodup_keys⟩
  obtain ⟨⟨k', v'⟩, he, rfl⟩ := List.mem_map.1 hmem
  rw [mem_entries_iff.1 he] at hk
  cases hk

theorem ofList_of_perm_cons {pairs : List (String × α)} {k : String} {v : α} {t : Table α}
    (h : pairs.Perm ((k, v) :: t.entries)) (hk : t.get? k = none) :
    ofList pairs = t.insert k v := by
  have hnodup : (pairs.map (·.1)).Nodup := (h.map _).nodup_iff.2 (nodup_keys_cons hk v)
  refine ext_get? fun k' => Option.ext fun v' => ?_
  rw [get?_ofList (eq_of_nodup_keys hnodup), h.mem_iff, List.mem_cons,
    mem_entries_iff, get?_insert]
  by_cases hkk : k = k'
  · subst hkk
    simp [hk, eq_comm]
  · simp [hkk, Ne.symm hkk]

theorem erase_insert {k : String} {v : α} {t : Table α} (hk : t.get? k = none) :
    (t.insert k v).erase k = t := by
  refine ext_get? fun k' => ?_
  rw [get?_erase, get?_insert]
  split
  · next h => rw [← h, hk]
  · rfl

end Table

end Testbed
