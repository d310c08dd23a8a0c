import Mathlib.Data.List.Forall2
import Testbed.Decimal.Shortest
import Testbed.Kind.Manifest
import Testbed.Proofs.Tokens

/-!
What a workload is started with, and the texts in which users and volumes are written.
-/
namespace Testbed

/-- A mount is the path it has in the container and whether it is read-only. -/
structure Description where
  image : String
  override : Option String
  args : List String
  env : List (String × String)
  ports : List Nat
  memory : Option Nat
  cpus : Option String
  capabilities : List String
  privileged : Bool
  hostPid : Bool
  user : Option Kind.User
  mounts : List (String × Bool)

theorem toList_injective {α : Type} : Function.Injective (Option.toList : Option α → List α) := by
  intro a b h
  cases a <;> cases b <;> simp_all

namespace Text

theorem all_ne {stop : Char} {p : List Char} (h : stop ∉ p) :
    ∀ c ∈ p, decide (c ≠ stop) = true := fun _ hc => decide_eq_true (ne_of_mem_of_not_mem hc h)

theorem eq_of_append_cons {stop : Char} {p p' s s' : List Char} (h : stop ∉ p) (h' : stop ∉ p')
    (heq : p ++ stop :: s = p' ++ stop :: s') : p = p' ∧ s = s' := by
  have hstop : ∀ t : List Char, ∀ c ∈ (stop :: t).head?, decide (c ≠ stop) = false := by simp
  have htake := congrArg (List.takeWhile fun c => decide (c ≠ stop)) heq
  rw [takeWhile_stop (all_ne h) (hstop s), takeWhile_stop (all_ne h') (hstop s')] at htake
  subst htake
  exact ⟨rfl, (List.cons.inj (List.append_cancel_left heq)).2⟩

inductive Pieces (stop : Char) : List Char → List (List Char) → Prop where
  | last {p : List Char} (h : stop ∉ p) : Pieces stop p [p]
  | more {p s : List Char} {ps : List (List Char)} (h : stop ∉ p) (hs : Pieces stop s ps) :
      Pieces stop (p ++ stop :: s) (p :: ps)

theorem pieces_cut (stop : Char) (s : List Char) : Pieces stop s (cut stop s) := by
  induction s with
  | nil => exact .last List.not_mem_nil
  | cons c s ih =>
    rw [cut]
    split
    · next hc =>
      subst hc
      exact .more List.not_mem_nil ih
    · next hc =>
      have hmem : ∀ {p : List Char}, stop ∉ p → stop ∉ c :: p := fun hp =>
        List.not_mem_cons_of_ne_of_not_mem (Ne.symm hc) hp
      generalize cut stop s = ps at ih
      cases ih with
      | last h => exact .last (hmem h)
      | more h hs => exact .more (hmem h) hs

theorem cut_eq_iff {stop : Char} {s : List Char} {ps : List (List Char)} :
    cut stop s = ps ↔ Pieces stop s ps := by
  constructor
  · intro h
    exact h ▸ pieces_cut stop s
  · intro h
    induction h with
    | last h => exact cut_of_not_mem h
    | more h _ ih => rw [cut_append h, ih]

end Text

namespace Decimal

structure IsUpTo (max : Nat) (s : List Char) (n : Nat) : Prop where
  written : ∃ digits, (s = digits ∨ s = '+' :: digits) ∧ digits ≠ [] ∧
    (∀ c ∈ digits, c.isDigit) ∧ n = ofDigits digits
  bounded : n ≤ max

theorem readDigits_eq_some {s : List Char} {n : Nat} :
    readDigits s = some n ↔ s ≠ [] ∧ (∀ c ∈ s, c.isDigit) ∧ n = ofDigits s := by
  rw [readDigits, Option.ite_none_right_eq_some, List.all_eq_true, Option.some.injEq, and_assoc,
    eq_comm (a := ofDigits s)]

theorem readUpTo_eq_some {max n : Nat} {s : List Char} :
    readUpTo max s = some n ↔ IsUpTo max s n := by
  constructor
  · intro h
    obtain ⟨hread, hmax⟩ := Option.filter_eq_some_iff.1 h
    split at hread
    · exact ⟨⟨_, .inr rfl, readDigits_eq_some.1 hread⟩, of_decide_eq_true hmax⟩
    · exact ⟨⟨_, .inl rfl, readDigits_eq_some.1 hread⟩, of_decide_eq_true hmax⟩
  · intro h
    obtain ⟨⟨digits, hs, hdigits⟩, hmax⟩ := h
    refine Option.filter_eq_some_iff.2 ⟨?_, decide_eq_true hmax⟩
    have hread := readDigits_eq_some.2 hdigits
    rcases hs with rfl | rfl
    · split
      · next r => exact absurd (hdigits.2.1 '+' List.mem_cons_self) (by decide)
      · exact hread
    · exact hread

theorem IsUpTo.not_mem {max n : Nat} {s : List Char} (h : IsUpTo max s n) : ':' ∉ s := by
  obtain ⟨⟨digits, hs, -, hdigits, -⟩, -⟩ := h
  have hcolon : ':' ∉ digits := fun hmem => absurd (hdigits ':' hmem) (by decide)
  rcases hs with rfl | rfl <;> simp [hcolon]

theorem text_injective : Function.Injective text := by
  intro m n h
  rw [← ofDigits_digits m, String.ofList_injective h, ofDigits_digits]

end Decimal

namespace Kind

inductive UserText : List Char → User → Prop where
  | alone {s : List Char} {u : Nat} (h : Decimal.IsUpTo 0xFFFF_FFFF s u) : UserText s ⟨u, none⟩
  | grouped {s t : List Char} {u g : Nat} (hu : Decimal.IsUpTo 0xFFFF_FFFF s u)
      (hg : Decimal.IsUpTo 0xFFFF_FFFF t g) : UserText (s ++ ':' :: t) ⟨u, some g⟩

inductive VolumeText (text : List Char) : VolumeSpec → Prop where
  | plain {host path : List Char} (h : Text.Pieces ':' text [host, path]) :
      VolumeText text ⟨String.ofList host, String.ofList path, []⟩
  | withModes {host path modes : List Char} {ms : List (List Char)}
      (h : Text.Pieces ':' text [host, path, modes]) (hm : Text.Pieces ',' modes ms) :
      VolumeText text ⟨String.ofList host, String.ofList path, ms.map String.ofList⟩

inductive MountText (text : String) : String × Bool → Prop where
  | intro {v : VolumeSpec} (h : VolumeText text.toList v) :
      MountText text (v.container, v.modes.contains "ro")

theorem User.ofString?_of_not_mem {s : String} (h : ':' ∉ s.toList) :
    User.ofString? s = (readId s.toList).map fun u => ⟨u, none⟩ := by
  rw [User.ofString?, List.dropWhile_eq_nil_iff.2 (Text.all_ne h),
    List.takeWhile_eq_self_iff.2 (Text.all_ne h)]

theorem User.ofString?_of_append {s : String} {uid gid : List Char}
    (hs : s.toList = uid ++ ':' :: gid) (h : ':' ∉ uid) :
    User.ofString? s = (readId uid).bind fun u => (readId gid).map fun g => ⟨u, some g⟩ := by
  have hstop : ∀ c ∈ (':' :: gid).head?, decide (c ≠ ':') = false := by simp
  rw [User.ofString?, hs, Text.dropWhile_stop (Text.all_ne h) hstop,
    Text.takeWhile_stop (Text.all_ne h) hstop]
  simp only [Option.map_eq_bind]
  rfl

theorem User.ofString?_eq_some {s : String} {u : User} :
    User.ofString? s = some u ↔ UserText s.toList u := by
  constructor
  · intro h
    by_cases hs : ':' ∈ s.toList
    · obtain ⟨uid, gid, hs, hmem⟩ := List.eq_append_cons_of_mem hs
      rw [User.ofString?_of_append hs hmem] at h
      obtain ⟨n, hn, h⟩ := Option.bind_eq_some_iff.1 h
      obtain ⟨g, hg, rfl⟩ := Option.map_eq_some_iff.1 h
      rw [hs]
      exact .grouped (Decimal.readUpTo_eq_some.1 hn) (Decimal.readUpTo_eq_some.1 hg)
    · rw [User.ofString?_of_not_mem hs] at h
      obtain ⟨n, hn, rfl⟩ := Option.map_eq_some_iff.1 h
      exact .alone (Decimal.readUpTo_eq_some.1 hn)
  · intro h
    generalize hs : s.toList = text at h
    cases h with
    | alone hu =>
      subst hs
      rw [User.ofString?_of_not_mem hu.not_mem, readId, Decimal.readUpTo_eq_some.2 hu]
      rfl
    | grouped hu hg =>
      rw [User.ofString?_of_append hs hu.not_mem, readId, readId, Decimal.readUpTo_eq_some.2 hu,
        Decimal.readUpTo_eq_some.2 hg]
      rfl

theorem splitAt_eq_iff {stop : Char} {s : String} {ps : List String} :
    Text.splitAt stop s = ps ↔ Text.Pieces stop s.toList (ps.map String.toList) := by
  rw [← Text.cut_eq_iff, Text.splitAt]
  constructor
  · intro h
    rw [← h, List.map_map]
    simp
  · intro h
    rw [h, List.map_map]
    simp

theorem VolumeSpec.ofString?_eq_some {s : String} {v : VolumeSpec} :
    VolumeSpec.ofString? s = some v ↔ VolumeText s.toList v := by
  constructor
  · intro h
    rw [VolumeSpec.ofString?] at h
    split at h
    · next host path hs =>
      cases h
      simpa using VolumeText.plain (splitAt_eq_iff.1 hs)
    · next host path modes hs =>
      cases h
      simpa using VolumeText.withModes (splitAt_eq_iff.1 hs) (splitAt_eq_iff.1 rfl)
    · cases h
  · intro h
    cases h with
    | plain h =>
      have hs : Text.splitAt ':' s = _ := congrArg (List.map String.ofList) (Text.cut_eq_iff.2 h)
      rw [VolumeSpec.ofString?, hs]
      rfl
    | withModes h hm =>
      have hs : Text.splitAt ':' s = _ := congrArg (List.map String.ofList) (Text.cut_eq_iff.2 h)
      rw [VolumeSpec.ofString?, hs]
      simp [Text.splitAt, Text.cut_eq_iff.2 hm]

theorem UserText.unique {s : String} {u u' : User} (h : UserText s.toList u)
    (h' : UserText s.toList u') : u = u' :=
  Option.some.inj ((User.ofString?_eq_some.2 h).symm.trans (User.ofString?_eq_some.2 h'))

theorem MountText.unique {text : String} {m m' : String × Bool} (h : MountText text m)
    (h' : MountText text m') : m = m' := by
  obtain ⟨h⟩ := h
  obtain ⟨h'⟩ := h'
  cases (VolumeSpec.ofString?_eq_some.2 h).symm.trans (VolumeSpec.ofString?_eq_some.2 h')
  rfl

theorem readVolumes_eq_ok {runnable : String} {volumes : List String} {specs : List VolumeSpec} :
    readVolumes runnable volumes = .ok specs ↔
      List.Forall₂ (fun text => VolumeText text.toList) volumes specs := by
  induction volumes generalizing specs with
  | nil => simp [readVolumes, eq_comm]
  | cons v volumes ih =>
    rw [readVolumes]
    constructor
    · intro h
      cases hv : VolumeSpec.ofString? v with
      | none => simp [hv] at h
      | some spec =>
        cases hr : readVolumes runnable volumes with
        | error e => simp [hv, hr, bind, Except.bind] at h
        | ok rest =>
          simp only [hv, hr, bind, Except.bind, pure, Except.pure, Except.ok.injEq] at h
          subst h
          exact .cons (VolumeSpec.ofString?_eq_some.1 hv) (ih.1 hr)
    · intro h
      cases h with
      | cons hv hrest => rw [VolumeSpec.ofString?_eq_some.2 hv, ih.2 hrest]; rfl

theorem readUser_eq_ok {runnable : String} {text : Option String} {user : Option User} :
    readUser runnable text = .ok user ↔
      List.Forall₂ (fun text => UserText text.toList) text.toList user.toList := by
  cases text with
  | none => cases user <;> simp [readUser]
  | some s =>
    rw [readUser]
    cases hs : User.ofString? s with
    | none =>
      have hnot : ∀ u, ¬UserText s.toList u := fun u hu => by
        simp [User.ofString?_eq_some.2 hu] at hs
      cases user <;> simp [hnot]
    | some u =>
      have hu : ∀ u', UserText s.toList u' ↔ u = u' := fun u' => by
        rw [← User.ofString?_eq_some, hs, Option.some.injEq]
      cases user <;> simp [hu]

theorem Manifest.ofLaunch_eq_ok {l : Launch} {m : Manifest} :
    Manifest.ofLaunch l = .ok m ↔ checkPortNames l.name l.ports.keys = .ok () ∧
      ∃ specs user,
        List.Forall₂ (fun text => VolumeText text.toList) l.options.volumes specs ∧
        List.Forall₂ (fun text => UserText text.toList) l.options.user.toList user.toList ∧
        m = ⟨deploymentOf l specs.zipIdx user, serviceOf l⟩ := by
  rw [Manifest.ofLaunch]
  constructor
  · intro h
    cases hports : checkPortNames l.name l.ports.keys with
    | error e => simp [hports, bind, Except.bind] at h
    | ok =>
      cases hv : readVolumes l.name l.options.volumes with
      | error e => simp [hports, hv, bind, Except.bind] at h
      | ok specs =>
        cases hu : readUser l.name l.options.user with
        | error e => simp [hports, hv, hu, bind, Except.bind] at h
        | ok user =>
          simp only [hports, hv, hu, bind, Except.bind, pure, Except.pure, Except.ok.injEq] at h
          exact ⟨rfl, specs, user, readVolumes_eq_ok.1 hv, readUser_eq_ok.1 hu, h.symm⟩
  · intro ⟨hports, specs, user, hv, hu, hm⟩
    rw [hports, readVolumes_eq_ok.2 hv, readUser_eq_ok.2 hu, hm]
    rfl

end Kind

def Description.ofLaunch (l : Launch) (user : Option Kind.User) (specs : List Kind.VolumeSpec) :
    Description where
  image := l.options.image
  override := (Kind.commandParts l.options.command).1
  args := (Kind.commandParts l.options.command).2
  env := l.options.env.entries
  ports := l.ports.values
  memory := l.options.limits.memory
  cpus := l.options.limits.cpus.map Decimal.plain
  capabilities := l.options.capabilities
  privileged := l.options.privileged
  hostPid := l.options.pidMode = .host
  user := user
  mounts := specs.map fun v => (v.container, v.modes.contains "ro")

theorem mountTexts_ofLaunch {l : Launch} {specs : List Kind.VolumeSpec}
    (hv : List.Forall₂ (fun text => Kind.VolumeText text.toList) l.options.volumes specs)
    (user : Option Kind.User) :
    List.Forall₂ Kind.MountText l.options.volumes (Description.ofLaunch l user specs).mounts :=
  List.forall₂_map_right_iff.2 (hv.imp fun _ _ => .intro)

end Testbed
