import Testbed.Proofs.Enduring
import Testbed.Proofs.Labels
import Testbed.StandIn.Backend
import Testbed.StandIn.Network

/-!
Reserved names over the life of an environment. The names that are reserved are those of the calls
that succeeded, whoever made them and whatever has become of them since; so each name is given away
once, and only while the environment is open.
-/
namespace Testbed

open Environment

variable {σ κ : Type} {e e' : Environment σ κ} {i : Nat}

def Environment.given (name : String) (e : Environment σ κ) : List String :=
  if (reserve name e).1.isOk then [name] else []

section Grants

variable (b : Backend σ κ) (net : Network σ)

mutual

def Request.grantsClosed : Request → Environment σ κ → List String
  | .reserve name, e => given name e
  | .addCloser id requests, e =>
    Request.allGrantsClosed requests (e.noteCloser ⟨id, e.runnables.length, requests⟩)
  | _, _ => []

def Request.allGrantsClosed : List Request → Environment σ κ → List String
  | [], _ => []
  | r :: rs, e => r.grantsClosed e ++ Request.allGrantsClosed rs (r.applyClosed b net e)

end

namespace Environment

def closerGrants : List Closer → Environment σ κ → List String
  | [], _ => []
  | c :: cs, e =>
    Request.allGrantsClosed b net c.requests (e.noteCloser c) ++
      closerGrants cs (e.runCloser b net c)

def closeGrants (e : Environment σ κ) : List String :=
  if e.closed then [] else closerGrants b net e.closers e.sealed

def startGrants (i : Nat) (e : Environment σ κ) : List String :=
  match e.closed, e.runnables[i]? with
  | false, some r =>
    if r.lifecycle.isRunning then []
    else
      let (launching, e) := launching b i r e
      if launching.closing then closeGrants b net e else []
  | _, _ => []

end Environment

def Request.grants : Request → Environment σ κ → List String
  | .reserve name, e => given name e
  | .start i, e => startGrants b net i e
  | .addCloser id requests, e =>
    if e.closed then
      Request.allGrantsClosed b net requests (e.noteCloser ⟨id, e.runnables.length, requests⟩)
    else []
  | .close, e | .drop, e => closeGrants b net e
  | _, _ => []

def Environment.grants : List Request → Environment σ κ → List String
  | [], _ => []
  | r :: rs, e => r.grants b net e ++ Environment.grants rs (r.apply b net e)

theorem given_of_closed (hc : e.closed = true) (name : String) : given name e = [] := by
  unfold given
  rcases reserve_cases name e with ⟨-, heq⟩ | ⟨-, -, heq⟩ | ⟨-, ho, -⟩ | ⟨-, ho, -⟩
  · rw [heq]
    rfl
  · rw [heq]
    rfl
  · rw [hc] at ho
    cases ho
  · rw [hc] at ho
    cases ho

mutual

theorem Request.grantsClosed_eq_nil :
    (r : Request) → (e : Environment σ κ) → e.closed = true → r.grantsClosed b net e = []
  | .reserve name, _, hc => given_of_closed hc name
  | .addCloser id requests, e, hc =>
    Request.allGrantsClosed_eq_nil requests
      (e.noteCloser ⟨id, e.runnables.length, requests⟩) hc
  | .settle _, _, _ => rfl
  | .initialise _ _, _, _ => rfl
  | .start _, _, _ => rfl
  | .halt _ _, _, _ => rfl
  | .exec _ _ _, _, _ => rfl
  | .waitReady _, _, _ => rfl
  | .addListener _, _, _ => rfl
  | .close, _, _ => rfl
  | .drop, _, _ => rfl

theorem Request.allGrantsClosed_eq_nil :
    (rs : List Request) → (e : Environment σ κ) → e.closed = true →
      Request.allGrantsClosed b net rs e = []
  | [], _, _ => rfl
  | r :: rs, e, hc => by
    have hnext : (r.applyClosed b net e).closed = true := lasting_closed.applyClosed b net r e hc
    rw [Request.allGrantsClosed, Request.grantsClosed_eq_nil r e hc,
      Request.allGrantsClosed_eq_nil rs _ hnext, List.nil_append]

end

namespace Environment

theorem closerGrants_eq_nil (cs : List Closer) (hc : e.closed = true) :
    closerGrants b net cs e = [] := by
  induction cs generalizing e with
  | nil => rfl
  | cons c cs ih =>
    have hnext : (e.runCloser b net c).closed = true := lasting_closed.runCloser b net c hc
    have hnone := Request.allGrantsClosed_eq_nil b net c.requests (e.noteCloser c) hc
    rw [closerGrants, ih hnext, hnone, List.nil_append]

theorem closeGrants_eq_nil (e : Environment σ κ) : closeGrants b net e = [] := by
  unfold closeGrants
  split
  · rfl
  · exact closerGrants_eq_nil b net e.closers rfl

theorem startGrants_eq_nil (i : Nat) (e : Environment σ κ) : startGrants b net i e = [] := by
  unfold startGrants
  split
  · split
    · rfl
    · dsimp only
      split
      · exact closeGrants_eq_nil b net _
      · rfl
  · rfl

theorem lasting_reserved (names : List String) :
    Lasting fun e : Environment σ κ => e.closed = true ∧ e.reserved = names :=
  lasting_of_frame (fun _ _ _ _ h => h) fun {e} _ _ ha h => by
    rcases ha with rfl | ⟨_, -, ho, -⟩
    · exact h
    · rw [h.1] at ho
      cases ho

theorem close_reserved (e : Environment σ κ) : (close b net e).reserved = e.reserved := by
  cases ho : e.closed with
  | true => rw [close_of_closed b net ho]
  | false => exact ((lasting_reserved e.reserved).close b net ho ⟨rfl, rfl⟩).2

theorem Handled.reserved (h : Handled i e e') : e'.reserved = e.reserved := by
  rcases h with hk | hs
  · rw [hk.rest]
  · rw [hs.rest]

theorem waitReady_reserved (i : Nat) (e : Environment σ κ) :
    ((waitReady b net i).after e).reserved = e.reserved := by
  obtain ⟨e₁, hh, ⟨heq, -⟩ | ⟨f, heq⟩⟩ := waitReady_handled b net i e
  · rw [Act.after, heq]
    exact hh.reserved
  · rw [Act.after, heq]
    exact hh.reserved

theorem start_reserved (i : Nat) (e : Environment σ κ) :
    ((start b net i).after e).reserved = e.reserved := by
  have hlaunch : ∀ r, (launch b net i r e).2.reserved = e.reserved := by
    intro r
    have hk : Kept e (launching b i r e).2 := launching_kept rfl
    have hm : (launching b i r e).2.reserved = e.reserved := by rw [hk.rest]
    unfold launch
    dsimp only
    split
    · rw [close_reserved, hm]
    · exact hm
  unfold Act.after start
  split
  · rfl
  · rfl
  · next r _ _ =>
    split
    · rfl
    · have hl := hlaunch r
      rcases hm : launch b net i r e with ⟨f | w, e₁⟩ <;> rw [hm] at hl
      · exact hl
      · dsimp only
        split
        · exact (halt_handled b .kill i _).reserved.trans hl
        · exact hl

theorem reserve_reserved (name : String) (e : Environment σ κ) :
    ((reserve name).after e).reserved = given name e ++ e.reserved := by
  unfold Act.after given
  rcases reserve_cases name e with ⟨-, heq⟩ | ⟨-, -, heq⟩ | ⟨-, -, -, heq⟩ | ⟨-, -, -, heq⟩ <;>
    rw [heq] <;> rfl

end Environment

theorem Request.grants_addCloser (id : String) (requests : List Request) (e : Environment σ κ) :
    (Request.addCloser id requests).grants b net e = [] := by
  rw [Request.grants]
  split
  · next hc =>
    exact Request.allGrantsClosed_eq_nil b net requests
      (e.noteCloser ⟨id, e.runnables.length, requests⟩) hc
  · rfl

theorem Request.apply_reserved (r : Request) (e : Environment σ κ) :
    (r.apply b net e).reserved = r.grants b net e ++ e.reserved := by
  cases r with
  | reserve name => exact reserve_reserved name e
  | settle r =>
    obtain ⟨world, heq⟩ := settle_after r e
    exact congrArg (·.reserved) heq
  | initialise f o =>
    obtain ⟨rs, heq, -⟩ := initialise_after f o e
    exact congrArg (·.reserved) heq
  | start i =>
    rw [Request.grants, startGrants_eq_nil]
    exact start_reserved b net i e
  | halt how i => exact (halt_handled b how i e).reserved
  | exec i c sinks => exact (exec_handled b i c sinks e).reserved
  | waitReady i => exact waitReady_reserved b net i e
  | addListener id => rfl
  | addCloser id requests =>
    rw [Request.grants_addCloser, Request.apply, Environment.addCloser]
    split
    · next hc => exact ((lasting_reserved e.reserved).runCloser b net _ ⟨hc, rfl⟩).2
    · rfl
  | close =>
    rw [Request.grants, closeGrants_eq_nil]
    exact close_reserved b net e
  | drop =>
    rw [Request.grants, closeGrants_eq_nil]
    exact close_reserved b net e

theorem Environment.mem_reserved_run (rs : List Request) (e : Environment σ κ) (name : String) :
    name ∈ (run b net rs e).reserved ↔ name ∈ grants b net rs e ∨ name ∈ e.reserved := by
  induction rs generalizing e with
  | nil => simp [run, grants]
  | cons r rs ih =>
    have hrun : run b net (r :: rs) e = run b net rs (r.apply b net e) := rfl
    rw [hrun, ih, grants, Request.apply_reserved, List.mem_append, List.mem_append]
    tauto

theorem mem_given {name other : String} :
    name ∈ given other e ↔ other = name ∧ (reserve name e).1.isOk = true := by
  unfold given
  split
  · next hok =>
    rw [List.mem_singleton]
    constructor
    · rintro rfl
      exact ⟨rfl, hok⟩
    · rintro ⟨rfl, -⟩
      rfl
  · next hok =>
    constructor
    · intro h
      cases h
    · rintro ⟨rfl, h⟩
      exact absurd h hok

theorem Request.mem_grants {r : Request} {name : String} :
    name ∈ r.grants b net e ↔
      r = .reserve name ∧ (Environment.reserve name e).1.isOk = true := by
  cases r with
  | reserve other =>
    rw [Request.grants, mem_given, Request.reserve.injEq]
  | start i => simp [Request.grants, startGrants_eq_nil]
  | close => simp [Request.grants, closeGrants_eq_nil]
  | drop => simp [Request.grants, closeGrants_eq_nil]
  | addCloser id requests => simp [Request.grants_addCloser]
  | settle | initialise | halt | exec | waitReady | addListener => simp [Request.grants]

theorem Environment.mem_grants (rs : List Request) (e : Environment σ κ) (name : String) :
    name ∈ grants b net rs e ↔
      ∃ before after, rs = before ++ .reserve name :: after ∧
        (reserve name (run b net before e)).1.isOk = true := by
  induction rs generalizing e with
  | nil => simp [grants]
  | cons r rs ih =>
    rw [grants, List.mem_append, Request.mem_grants, ih]
    constructor
    · rintro (⟨rfl, hok⟩ | ⟨before, after, rfl, hok⟩)
      · exact ⟨[], rs, rfl, hok⟩
      · exact ⟨r :: before, after, rfl, hok⟩
    · rintro ⟨before, after, heq, hok⟩
      cases before with
      | nil =>
        obtain ⟨rfl, -⟩ := List.cons.inj heq
        exact .inl ⟨rfl, hok⟩
      | cons first before =>
        obtain ⟨rfl, rfl⟩ := List.cons.inj heq
        exact .inr ⟨before, after, rfl, hok⟩

end Grants

namespace Environment

variable {b : Backend σ κ} {net : Network σ}

/-- A call for a name succeeds exactly if the name is a label, the environment is open and no
earlier call got the name. Otherwise it fails for the first of these that does not hold, and the
environment and the world are as before. -/
theorem reserve_once {c : Config} {temp suffix : String} {world : World σ}
    {e₀ : Environment σ κ} (hc : create b net c temp suffix world = .ok e₀)
    (rs : List Request) (name : String) :
    let e := run b net rs e₀
    let taken := name ∈ grants b net rs e₀
    (taken ↔ ∃ before after, rs = before ++ .reserve name :: after ∧
      (reserve name (run b net before e₀)).1.isOk = true) ∧
    ((reserve name e).1.isOk = true ↔ DnsLabel name ∧ e.closed = false ∧ ¬taken) ∧
    (¬DnsLabel name → reserve name e = (.error (.config (.badName "runnable" name)), e)) ∧
    (DnsLabel name → e.closed = true →
      reserve name e = (.error (.environmentClosed e.name), e)) ∧
    (DnsLabel name → e.closed = false → taken →
      reserve name e = (.error (.nameConflict name e.name), e)) := by
  intro e taken
  refine ⟨mem_grants b net rs e₀ name, ?_⟩
  have htaken : name ∈ e.reserved ↔ taken := by
    obtain ⟨dir, world', rfl⟩ := create_eq_ok b net hc
    rw [mem_reserved_run]
    simp [initial, taken]
  rw [← htaken, ← isLabel_iff]
  rcases reserve_cases name e with ⟨hn, heq⟩ | ⟨hn, ho, heq⟩ | ⟨hn, ho, hm, heq⟩ | ⟨hn, ho, hm, heq⟩
  · simp [heq, hn, Except.isOk, Except.toBool]
  · simp [heq, hn, ho, Except.isOk, Except.toBool]
  · simp [heq, hn, ho, hm, Except.isOk, Except.toBool]
  · simp [heq, hn, ho, hm, Except.isOk, Except.toBool]

def spending : List Request :=
  [.reserve "a-", .reserve "a", .settle ⟨"a", .empty⟩,
    .initialise ⟨"a", .empty⟩ (.ofImage "image"), .start 0]

theorem reserve_once_failed_launch : ∃ e₀ : Environment StandIn.State String,
    create StandIn.backend StandIn.network (.ofName "bed") "/tmp" "Ab3dE9"
      ⟨.empty, .empty, { StandIn.State.empty with
        staging := { StandIn.Staging.empty with launchFails := ["a"] } }⟩ = .ok e₀ ∧
    let e := run StandIn.backend StandIn.network spending e₀
    e.started = [] ∧ reserve "a" e = (.error (.nameConflict "a" e.name), e) ∧
    (reserve "b" e).1.isOk = true := by
  obtain ⟨e₀, hc, hp⟩ := exists_of_toOption (p := fun e₀ =>
    let e := run StandIn.backend StandIn.network spending e₀
    e.closed = false ∧ e.started = [] ∧
      grants StandIn.backend StandIn.network spending e₀ = ["a"])
    (x := create StandIn.backend StandIn.network (.ofName "bed") "/tmp" "Ab3dE9"
      ⟨.empty, .empty, { StandIn.State.empty with
        staging := { StandIn.Staging.empty with launchFails := ["a"] } }⟩) (by decide +kernel)
  obtain ⟨ho, hs, hg⟩ := of_decide_eq_true hp
  refine ⟨e₀, hc, hs, ?_, ?_⟩
  · refine (reserve_once hc spending "a").2.2.2.2 (by decide) ho ?_
    rw [hg]
    exact List.mem_singleton_self "a"
  · refine (reserve_once hc spending "b").2.1.mpr ⟨by decide, ho, ?_⟩
    rw [hg]
    decide

end Environment

end Testbed
