import Mathlib.Data.List.Count
import Testbed.Config
import Testbed.Proofs.JsonText

/-!
Settings that are written as JSON and read back. A record is read by the names it was written with;
spans, policies and settings follow from their fields.
-/
namespace Testbed

namespace Json

variable {ms : List (String × Json)} {v : Json}

theorem writable_record (h : ∀ m ∈ ms, Writable m.2) : Writable (record ms) := by
  refine .object ?_ ?_
  · rintro _ hm
    obtain ⟨m, -, rfl⟩ := List.mem_map.1 hm
    rfl
  · rintro _ hm
    obtain ⟨m, hmem, rfl⟩ := List.mem_map.1 hm
    exact h m hmem

theorem writable_ofNat (n : Nat) : Writable (ofNat n) := .number (wellFormed_ofNat n)

theorem writable_ofOption {α : Type} {f : α → Json} (h : ∀ a, Writable (f a)) (o : Option α) :
    Writable (ofOption f o) := by
  cases o with
  | none => exact .null
  | some a => exact h a

theorem find?_member (hd : (ms.map Prod.fst).Nodup) {m : String × Json} (hm : m ∈ ms) :
    (ms.map fun m => (some m.1, m.2)).find? (fun w => w.1 = some m.1) = some (some m.1, m.2) := by
  induction ms with
  | nil => cases hm
  | cons w ms ih =>
    rw [List.map_cons] at hd ⊢
    obtain ⟨hfresh, hd⟩ := List.nodup_cons.1 hd
    rcases List.mem_cons.1 hm with rfl | hm
    · exact List.find?_cons_of_pos (by simp)
    · have hne : w.1 ≠ m.1 := fun heq => hfresh (heq ▸ List.mem_map_of_mem hm)
      rw [List.find?_cons_of_neg (by simpa using hne)]
      exact ih hd hm

theorem fields?_record (ms : List (String × Json)) (hd : (ms.map Prod.fst).Nodup) (closed : Bool) :
    ∃ f, (record ms).fields? (ms.map Prod.fst) closed = some f ∧
      ∀ i, f.at? i = ms[i]?.map Prod.snd := by
  let names := ms.map Prod.fst
  let members := ms.map fun m => ((some m.1, m.2) : Option String × Json)
  have hkeys : members.map (·.1) = names.map some := by
    simp [members, names]
  have hnamed : (names.map some).any (·.isNone) = false := by simp
  have hknown : (names.map some).any (fun k => !(k.any (names.contains ·))) = false := by
    refine List.any_eq_false.2 fun k hk => ?_
    obtain ⟨n, hn, rfl⟩ := List.mem_map.1 hk
    simpa using hn
  have honce : names.any (fun n => 1 < (names.map some).count (some n)) = false := by
    refine List.any_eq_false.2 fun n _ => ?_
    rw [List.count_map_of_injective _ _ (Option.some_injective String)]
    have hcount := List.nodup_iff_count.1 hd n
    exact decide_eq_true_iff.not.2 hcount.not_gt
  have hvalues : names.map (fun n => (members.find? fun m => m.1 = some n).map (·.2)) =
      ms.map fun m => some m.2 := by
    rw [List.map_map]
    refine List.map_congr_left fun m hm => ?_
    rw [Function.comp_apply, find?_member hd hm, Option.map_some]
  refine ⟨⟨ms.map fun m => some m.2, false⟩, ?_, fun i => ?_⟩
  · change (object members).fields? names closed = _
    simp only [fields?, hkeys, hnamed, hknown, honce, hvalues, Bool.and_false, Bool.false_eq_true,
      if_false]
  · rw [Fields.at?, List.getElem?_map]
    cases ms[i]? <;> rfl

namespace Fields

variable {α : Type} {f : Fields} {i : Nat} {read : Json → Option α}

theorem required_eq {a : α} (hi : f.at? i = some v) (h : read v = some a) :
    f.required i read = some a := by
  rw [required, hi, Option.bind_some, h]

theorem nullable_eq {o : Option α} (hi : f.at? i = some v) (h : nullable? read v = some o) :
    f.nullable i read = some o := by
  rw [nullable, hi]
  exact h

end Fields

theorem upTo?_ofNat {max n : Nat} (h : n ≤ max) : (ofNat n).upTo? max = some n := by
  simp [ofNat, upTo?, toNat?_ofNat, h]

theorem nullable?_text (o : Option String) : nullable? text? (ofOption text o) = some o := by
  cases o <;> rfl

end Json

open Json.Fields (required_eq nullable_eq)

theorem Span.writable_toJson (s : Span) : s.toJson.Writable := by
  refine Json.writable_record ?_
  simp [Json.writable_ofNat]

theorem Span.ofParts?_parts (s : Span) : Span.ofParts? s.secs s.subsec = some s := by
  have hwhole : s.secs * 1_000_000_000 + s.subsec = s.nanos :=
    Nat.div_add_mod' s.nanos 1_000_000_000
  simp only [Span.ofParts?, hwhole, s.nanos_lt, dite_true]

theorem Span.ofJson?_toJson (s : Span) : Span.ofJson? s.toJson = some s := by
  have hlimit : s.nanos < 0x1_0000_0000_0000_0000 * 1_000_000_000 := s.nanos_lt
  let fields := [("secs", Json.ofNat s.secs), ("nanos", Json.ofNat s.subsec)]
  obtain ⟨f, hf, hat⟩ := Json.fields?_record fields (by simp [fields]) true
  have hsecs : f.required 0 (Json.upTo? 0xFFFF_FFFF_FFFF_FFFF) = some s.secs :=
    required_eq (hat 0) (Json.upTo?_ofNat (by unfold Span.secs; omega))
  have hsubsec : f.required 1 (Json.upTo? 0xFFFF_FFFF) = some s.subsec :=
    required_eq (hat 1) (Json.upTo?_ofNat (by unfold Span.subsec; omega))
  have hfields : s.toJson.fields? ["secs", "nanos"] true = some f := hf
  rw [Span.ofJson?, hfields]
  simp only [bind, Option.bind, hsecs, hsubsec, s.ofParts?_parts]

theorem Policy.writable_toJson (p : Policy) : p.toJson.Writable := by
  refine Json.writable_record ?_
  simp [Json.writable_ofNat, Span.writable_toJson]

theorem Policy.ofJson?_toJson {p : Policy} (h : p.retries < 2 ^ 32) :
    Policy.ofJson? p.toJson = some p := by
  let fields := [("min", p.min.toJson), ("max", p.max.toJson), ("max_retries", .ofNat p.retries)]
  obtain ⟨f, hf, hat⟩ := Json.fields?_record fields (by simp [fields]) false
  have hmin : f.required 0 Span.ofJson? = some p.min := required_eq (hat 0) p.min.ofJson?_toJson
  have hmax : f.required 1 Span.ofJson? = some p.max := required_eq (hat 1) p.max.ofJson?_toJson
  have hretries : f.required 2 (Json.upTo? 0xFFFF_FFFF) = some p.retries :=
    required_eq (hat 2) (Json.upTo?_ofNat (Nat.le_of_lt_succ h))
  have hfields : p.toJson.fields? ["min", "max", "max_retries"] false = some f := hf
  simp only [Policy.ofJson?, hfields, hmin, hmax, hretries, Option.bind_eq_bind, Option.bind_some,
    Option.pure_def]

theorem Config.writable_toJson (c : Config) : c.toJson.Writable := by
  refine Json.writable_record ?_
  have htext : ∀ s : String, (Json.text s).Writable := fun s => .string s
  have hflag : ∀ b : Bool, (Json.bool b).Writable := fun b => .bool b
  simp [htext, hflag, Json.writable_ofOption, Policy.writable_toJson]

theorem Config.ofJson?_toJson {c : Config} (h : c.readyBackoff.retries < 2 ^ 32) :
    Config.ofJson? c.toJson = some c := by
  let fields : List (String × Json) := [("name", .text c.name),
    ("base_dir", .ofOption .text c.baseDir), ("keep_dir", .bool c.keepDir),
    ("verbose", .bool c.verbose), ("ready_backoff", c.readyBackoff.toJson),
    ("docker_host_address", .text c.dockerHost),
    ("kind_node_image", .ofOption .text c.nodeImage)]
  obtain ⟨f, hf, hat⟩ := Json.fields?_record fields (by simp [fields]) false
  have hname : f.required 0 Json.text? = some c.name := required_eq (hat 0) rfl
  have hbase : f.nullable 1 Json.text? = some c.baseDir :=
    nullable_eq (hat 1) (Json.nullable?_text c.baseDir)
  have hkeep : f.required 2 Json.bool? = some c.keepDir := required_eq (hat 2) rfl
  have hverbose : f.required 3 Json.bool? = some c.verbose := required_eq (hat 3) rfl
  have hbackoff : f.required 4 Policy.ofJson? = some c.readyBackoff :=
    required_eq (hat 4) (Policy.ofJson?_toJson h)
  have hhost : f.required 5 Json.text? = some c.dockerHost := required_eq (hat 5) rfl
  have himage : f.nullable 6 Json.text? = some c.nodeImage :=
    nullable_eq (hat 6) (Json.nullable?_text c.nodeImage)
  have hfields : c.toJson.fields? ["name", "base_dir", "keep_dir", "verbose", "ready_backoff",
    "docker_host_address", "kind_node_image"] false = some f := hf
  simp only [Config.ofJson?, hfields, hname, hbase, hkeep, hverbose, hbackoff, hhost, himage,
    Option.bind_eq_bind, Option.bind_some, Option.pure_def]

/-- Settings and policies are read back from their JSON texts as they were, and written the same
again. A policy counts its attempts in 32 bits. -/
theorem settings_survive_saving {c : Config} {p : Policy} (hc : c.readyBackoff.retries < 2 ^ 32)
    (hp : p.retries < 2 ^ 32) :
    ((Json.read c.toJson.render).bind Config.ofJson? = some c ∧
      ((Json.read c.toJson.render).bind Config.ofJson?).map (·.toJson.render) =
        some c.toJson.render) ∧
    ((Json.read p.toJson.render).bind Policy.ofJson? = some p ∧
      ((Json.read p.toJson.render).bind Policy.ofJson?).map (·.toJson.render) =
        some p.toJson.render) := by
  have hconfig : (Json.read c.toJson.render).bind Config.ofJson? = some c := by
    rw [c.writable_toJson.read_render, Option.bind_some, Config.ofJson?_toJson hc]
  have hpolicy : (Json.read p.toJson.render).bind Policy.ofJson? = some p := by
    rw [p.writable_toJson.read_render, Option.bind_some, Policy.ofJson?_toJson hp]
  exact ⟨⟨hconfig, by rw [hconfig, Option.map_some]⟩, hpolicy, by rw [hpolicy, Option.map_some]⟩

theorem settings_survive_saving_escaped :
    let p : Policy := ⟨.zero, .longest, 0xFFFF_FFFF⟩
    let c : Config := ⟨"\x01 \"quoted\"\t\\ \x7f", some "/größe/𝄞", true, false, p, "", none⟩
    (c.readyBackoff.retries < 2 ^ 32 ∧ p.retries < 2 ^ 32) ∧
    (Json.read c.toJson.render).bind Config.ofJson? = some c ∧
    (Json.read p.toJson.render).bind Policy.ofJson? = some p := by
  intro p c
  have hp : p.retries < 2 ^ 32 := by decide
  have hc : c.readyBackoff.retries < 2 ^ 32 := hp
  obtain ⟨⟨hconfig, -⟩, hpolicy, -⟩ := settings_survive_saving hc hp
  exact ⟨⟨hc, hp⟩, hconfig, hpolicy⟩

end Testbed
