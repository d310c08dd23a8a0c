import Testbed.Metrics.Source
import Testbed.Proofs.Accepted
import Testbed.Proofs.Addresses
import Testbed.Proofs.Summing

/-!
Where probes and scrapes go. Their ports were declared when the runnable was initialised or
instrumented, and a running runnable holds a workload which resolves them, so that each request
goes to an address of that workload. Nothing is asked of a runnable that does not run.
-/
namespace Testbed

open Environment Metrics

variable {σ κ : Type}

namespace Environment

/-- What a run goes through from a state on: the states that requests leave, in an open
environment and in a closed one, and those inside a request, where a launch has been made, where
the environment is sealed, where a closer begins, and after a single attempt. Runnables may be
instrumented and scraped at any time. -/
inductive Later (b : Backend σ κ) (net : Network σ) (e₀ : Environment σ κ) :
    Environment σ κ → Prop
  | start : Later b net e₀ e₀
  | asked {e} (r : Request) (before : Later b net e₀ e) : Later b net e₀ (r.apply b net e)
  | askedClosed {e} (r : Request) (before : Later b net e₀ e) :
      Later b net e₀ (r.applyClosed b net e)
  | launching {e} (i : Nat) (r : Runnable κ) (before : Later b net e₀ e) :
      Later b net e₀ (launching b i r e).2
  | sealed {e} (before : Later b net e₀ e) : Later b net e₀ e.sealed
  | closer {e} (c : Closer) (before : Later b net e₀ e) : Later b net e₀ (e.noteCloser c)
  | attempted {e} (i : Nat) (p : Probe) (before : Later b net e₀ e) :
      Later b net e₀ ((check b net i p).after e)
  | instrumented {e} (i : Nat) (t : Target) (before : Later b net e₀ e) :
      Later b net e₀ ((instrument i t).after e)
  | scraped {e} (m : Instrumented) (before : Later b net e₀ e) :
      Later b net e₀ ((scrape net m).after e)

def Course (b : Backend σ κ) (net : Network σ) (e : Environment σ κ) : Prop :=
  ∃ c temp suffix world e₀, create b net c temp suffix world = .ok e₀ ∧ Later b net e₀ e

def retag (f : Tags → Tags) (r : Runnable κ) : Runnable κ := { r with tags := f r.tags }

structure Standing (b : Backend σ κ) (P : Environment σ κ → Prop) : Prop extends Enduring b P where
  tagged : ∀ {e : Environment σ κ} (i : Nat) (f : Tags → Tags), P e → P (e.update i (retag f))

variable {P : Environment σ κ → Prop} {b : Backend σ κ} {net : Network σ}
  {e e' e₀ : Environment σ κ} {i : Nat} {r : Runnable κ} {port : String}

theorem Later.trans (h : Later b net e₀ e) (h' : Later b net e e') : Later b net e₀ e' := by
  induction h' with
  | start => exact h
  | asked r _ ih => exact ih.asked r
  | askedClosed r _ ih => exact ih.askedClosed r
  | launching i r _ ih => exact ih.launching i r
  | sealed _ ih => exact ih.sealed
  | closer c _ ih => exact ih.closer c
  | attempted i p _ ih => exact ih.attempted i p
  | instrumented i t _ ih => exact ih.instrumented i t
  | scraped m _ ih => exact ih.scraped m

theorem Course.later (h : Course b net e) (h' : Later b net e e') : Course b net e' := by
  obtain ⟨c, temp, suffix, world, e₀, hc, hl⟩ := h
  exact ⟨c, temp, suffix, world, e₀, hc, hl.trans h'⟩

theorem Later.run (h : Later b net e₀ e) (rs : List Request) :
    Later b net e₀ (run b net rs e) := by
  induction rs generalizing e with
  | nil => exact h
  | cons r rs ih => exact ih (h.asked r)

theorem Later.applyAllClosed (h : Later b net e₀ e) (rs : List Request) :
    Later b net e₀ (Request.applyAllClosed b net rs e) := by
  induction rs generalizing e with
  | nil => exact h
  | cons r rs ih => exact ih (h.askedClosed r)

theorem Later.runClosers (h : Later b net e₀ e) (cs : List Closer) :
    Later b net e₀ (cs.foldl (fun e c => e.runCloser b net c) e) := by
  induction cs generalizing e with
  | nil => exact h
  | cons c cs ih => exact ih ((h.closer c).applyAllClosed c.requests)

theorem Later.unsettled {p : Probe} {f f' : Failure} {n : Nat}
    (h : Unsettled (readyRound b net i p) f e n f' e') : Later b net e e' := by
  induction h with
  | start => exact .start
  | @next n f₁ f₂ e₁ e₂ _ last ih =>
    unfold readyRound at last
    split at last
    · cases last
    · split at last
      · cases last
      · next hcheck =>
        cases last
        have hnext := ih.attempted i p
        rwa [Act.after, hcheck] at hnext

theorem instrument_after (i : Nat) (t : Target) (e : Environment σ κ) :
    (instrument i t).after e = e ∨
      (instrument i t).after e = e.update i (retag (·.insert (.target t))) := by
  unfold Act.after instrument
  split
  · exact .inl rfl
  · split
    · exact .inr rfl
    · exact .inl rfl

theorem Standing.later (hP : Standing b P) (h : Later b net e₀ e) (h₀ : P e₀) : P e := by
  induction h with
  | start => exact h₀
  | asked r _ ih => exact hP.toEnduring.apply net ih r
  | askedClosed r _ ih => exact hP.toLasting.applyClosed b net r _ ih
  | launching i r _ ih => exact hP.kept (launching_kept rfl) ih
  | @sealed e _ ih => exact hP.registry [] [] [] true e.history ih
  | closer c _ ih => exact hP.kept (kept_noteCloser c _) ih
  | attempted i p _ ih => exact hP.handled (check_handled b net i p _) ih
  | @instrumented e i t _ ih =>
    rcases instrument_after i t e with heq | heq <;> rw [heq]
    · exact ih
    · exact hP.tagged i _ ih
  | @scraped e m _ ih =>
    obtain ⟨world, heq⟩ := scrape_after net m e
    rw [Act.after, heq]
    exact hP.kept (kept_world _ world) ih

theorem Standing.course (hP : Standing b P)
    (h₀ : ∀ c dir world, P { initial c dir world with history := [.scopeCreated true] })
    (h : Course b net e) : P e := by
  obtain ⟨c, temp, suffix, world, e₀, hc, hl⟩ := h
  obtain ⟨dir, world', rfl⟩ := create_eq_ok b net hc
  exact hP.later hl (h₀ c dir world')

theorem standing_held (b : Backend σ κ) : Standing b (Held (σ := σ)) where
  kept hk h := by
    rw [Held, hk.runnables]
    exact h
  struck {i e _} hs h := by
    have hu : Held (e.update i markStopped) := forall_update h fun _ _ _ => rfl
    rw [hs.rest]
    exact hu
  ready i h := forall_update h fun r _ hr => by
    unfold markReady
    split
    · next hl => rw [hr, hl]; rfl
    · exact hr
  initialised f o h := by
    obtain ⟨rs, heq, hrs⟩ := initialise_after f o _
    rw [heq]
    intro r hr
    rcases List.mem_append.mp hr with hr | hr
    · exact h r hr
    · rw [(hrs r hr).1, (hrs r hr).2]
      rfl
  aside _ _ _ h := h
  registry _ _ _ _ _ h := h
  taken _ _ _ h := forall_update h fun _ _ _ => rfl
  tagged _ _ h := forall_update h fun _ _ hr => hr

theorem standing_supplied (b : Backend σ κ) : Standing b (Supplied (σ := σ) b) where
  toEnduring := enduring_supplied b
  tagged _ _ h := forall_update h fun _ _ hr => hr

theorem standing_consistent (b : Backend σ κ) (c : Config) :
    Standing b (Consistent (σ := σ) (κ := κ) c) where
  toEnduring := enduring_consistent b c
  tagged i f h := h.update (f := retag f) (fun _ ha => ⟨ha.policy, ha.checked⟩) i

theorem enduring_of_retains (hP : ∀ {e e'}, Retains e e' → P e → P e') : Enduring b P where
  kept hk h := hP ((enduring_retains b _).kept hk (.refl _)) h
  struck hs h := hP hs.retains h
  ready i h := hP ((enduring_retains b _).ready i (.refl _)) h
  initialised f o h := hP (initialise_retains f o _) h
  aside reserved listeners ha h :=
    hP ((enduring_retains b _).aside reserved listeners ha (.refl _)) h
  registry started listeners closers closed history h :=
    hP ((enduring_retains b _).registry started listeners closers closed history (.refl _)) h
  taken world hi hl h := hP ((enduring_retains b _).taken world hi hl (.refl _)) h

def Declares (i : Nat) (port : String) (e : Environment σ κ) : Prop :=
  ∃ r, e.runnables[i]? = some r ∧ port ∈ r.ports.keys

theorem standing_declares (b : Backend σ κ) (i : Nat) (port : String) :
    Standing b (Declares (σ := σ) i port) where
  toEnduring := enduring_of_retains fun hret ⟨r, hi, hp⟩ => by
    obtain ⟨lifecycle, workload, hi'⟩ := hret.runnables i r hi
    exact ⟨_, hi', hp⟩
  tagged j f := fun ⟨r, hi, hp⟩ => by
    rw [Declares, getElem?_update]
    split
    · exact ⟨retag f r, by rw [hi, Option.map_some], hp⟩
    · exact ⟨r, hi, hp⟩

theorem declares_of_instrument {t : Target} {m : Instrumented}
    (h : (instrument i t e).1 = .ok m) :
    m = ⟨i, t⟩ ∧ Declares i t.port ((instrument i t).after e) := by
  unfold Act.after
  unfold instrument at h ⊢
  split at h
  · cases h
  · next r hi =>
    split at h
    · next hp =>
      cases h
      refine ⟨rfl, ?_⟩
      rw [if_pos hp, Declares, getElem?_update, if_pos rfl, hi]
      exact ⟨_, rfl, Table.contains_eq_true_iff.mp hp⟩
    · cases h

theorem Course.supplied (hc : Course b net e) : Supplied b e :=
  (standing_supplied b).course (fun _ _ _ => by simp [Supplied, initial]) hc

theorem Course.served (hb : b.Resolves) (hc : Course b net e) : ∀ r ∈ e.runnables, r.Served := by
  intro r hm
  have hheld := (standing_held b).course (fun _ _ _ => by simp [Held, initial]) hc
  refine ⟨hheld r hm, fun w hw => ?_⟩
  obtain ⟨world, hl⟩ := hc.supplied r hm w hw
  exact hb _ world w hl

theorem Course.accepted (hc : Course b net e) : ∀ r ∈ e.runnables, r.Accepted e.config := by
  obtain ⟨c, temp, suffix, world, e₀, hcreate, hl⟩ := hc
  obtain ⟨dir, world', rfl⟩ := create_eq_ok b net hcreate
  have h : Consistent c e := (standing_consistent b c).later hl ⟨rfl, by simp [initial]⟩
  rw [h.1]
  exact h.2

end Environment

variable {b : Backend σ κ} {net : Network σ} {e e' : Environment σ κ} {i : Nat} {r : Runnable κ}
  {port : String} {ρ α : Type}

theorem Runnable.Accepted.declared {c : Config} (h : r.Accepted c) {p : Probe}
    (hp : r.options.readiness = some p) (hport : p.port = some port) : port ∈ r.ports.keys := by
  have hbind : r.options.readiness.bind Probe.port = some port := by rw [hp]; exact hport
  by_contra hnot
  have hno : r.ports.contains port = false := by
    rwa [← Bool.not_eq_true, Table.contains_eq_true_iff]
  have hk := h.checked
  unfold checkOptions at hk
  simp only [bind, Except.bind, hbind] at hk
  split at hk
  · cases hk
  · simp [hno, throw, throwThe, MonadExceptOf.throw] at hk

/-- A request is made of a running runnable only, it goes to a port of its workload, and the
outcome depends on nothing but the reply. -/
structure Directed (e : Environment σ κ) (r : Runnable κ) (port : String)
    (request : String → Network σ → World σ → ρ × World σ)
    (attempt : Network σ → Act (Environment σ κ) α) : Prop where
  stopped : r.lifecycle.isRunning = false →
    ∀ net, attempt net e = (.error (.notRunning r.name), e)
  running : r.lifecycle.isRunning = true → ∃ w n, r.workload = some w ∧
    w.ports.get? port = some n ∧
    let address := w.address ++ ":" ++ Decimal.text n
    address ≠ "" ∧ address ≠ Runnable.stoppedAddress ∧
    ∃ outcome : ρ → Except Failure α, ∀ net, attempt net e =
      let (reply, world) := request address net e.world
      (outcome reply, { e with world })

theorem address_of_stopped (hs : r.Served) (hi : e.runnables[i]? = some r)
    (hp : port ∈ r.ports.keys) (hrun : r.lifecycle.isRunning = false) :
    e.address i port = .error (.notRunning r.name) := by
  have hne : r.endpoint port ≠ "" := fun h => (hs.endpoint_eq_empty_iff port).mp h hp
  simp [Environment.address, hi, hne, hrun]

theorem address_of_running (hs : r.Served) (hi : e.runnables[i]? = some r)
    (hp : port ∈ r.ports.keys) (hrun : r.lifecycle.isRunning = true) :
    ∃ w n, r.workload = some w ∧ w.ports.get? port = some n ∧
      r.endpoint port = w.address ++ ":" ++ Decimal.text n ∧
      e.address i port = .ok (w.address ++ ":" ++ Decimal.text n) := by
  obtain ⟨w, n, hw, -, hn, hendpoint⟩ := hs.endpoint_of_running hp hrun
  have hne : r.endpoint port ≠ "" := fun h => (hs.endpoint_eq_empty_iff port).mp h hp
  refine ⟨w, n, hw, hn, hendpoint, ?_⟩
  rw [← hendpoint]
  simp [Environment.address, hi, hne, hrun]

theorem address_of_undeclared (hi : e.runnables[i]? = some r) (hp : port ∉ r.ports.keys) :
    e.address i port = .error (.undeclaredPort r.name port) := by
  simp [Environment.address, hi, Runnable.endpoint_of_undeclared hp]

theorem directed_of_address (hs : r.Served) (hi : e.runnables[i]? = some r)
    (hp : port ∈ r.ports.keys) {request : String → Network σ → World σ → ρ × World σ}
    {attempt : Network σ → Act (Environment σ κ) α} (outcome : String → ρ → Except Failure α)
    (hattempt : ∀ net, attempt net e = match e.address i port with
      | .error f => (.error f, e)
      | .ok address =>
        let (reply, world) := request address net e.world
        (outcome address reply, { e with world })) :
    Directed e r port request attempt where
  stopped hrun net := by rw [hattempt, address_of_stopped hs hi hp hrun]
  running hrun := by
    obtain ⟨w, n, hw, hn, -, haddress⟩ := address_of_running hs hi hp hrun
    refine ⟨w, n, hw, hn, address_ne (by decide) _ _, address_ne (by decide) _ _,
      outcome (w.address ++ ":" ++ Decimal.text n), fun net => ?_⟩
    rw [hattempt, haddress]

/-- An attempt makes one request, for a URL, and its outcome depends on nothing but the reply. -/
def Asks (url : String) (e : Environment σ κ)
    (attempt : Network σ → Act (Environment σ κ) α) : Prop :=
  ∃ outcome : Reply → Except Failure α, ∀ net, attempt net e =
    let (reply, world) := net.get url e.world
    (outcome reply, { e with world })

theorem Directed.asks {url : String → String} {attempt : Network σ → Act (Environment σ κ) α}
    (h : Directed e r port (fun address net => net.get (url address)) attempt) (hs : r.Served)
    (hp : port ∈ r.ports.keys) (hrun : r.lifecycle.isRunning = true) :
    Asks (url (r.endpoint port)) e attempt := by
  obtain ⟨w, n, hw, hn, -, -, hasks⟩ := h.running hrun
  obtain ⟨w', n', hw', -, hn', hendpoint⟩ := hs.endpoint_of_running hp hrun
  cases hw.symm.trans hw'
  cases hn.symm.trans hn'
  rw [hendpoint]
  exact hasks

def scrapeOutcome (runnable url : String) : Reply → Except Failure String
  | .failed cause => .error (.scrape runnable (.request url cause))
  | .answered status body =>
    if Http.isSuccess status then .ok body
    else .error (.scrape runnable (.wrongStatus url (Http.statusText status)))

theorem scrape_eq_of_declared (hs : r.Served) {m : Instrumented}
    (hi : e.runnables[m.runnable]? = some r) (hp : m.target.port ∈ r.ports.keys)
    (net : Network σ) :
    scrape net m e = match e.address m.runnable m.target.port with
      | .error f => (.error f, e)
      | .ok address =>
        let url := urlOf m.target.scheme address m.target.path
        let (reply, world) := net.get url e.world
        (scrapeOutcome r.name url reply, { e with world }) := by
  cases hrun : r.lifecycle.isRunning with
  | false => simp [scrape, hi, hrun, address_of_stopped hs hi hp hrun]
  | true =>
    obtain ⟨w, n, -, -, hendpoint, haddress⟩ := address_of_running hs hi hp hrun
    rw [haddress]
    simp only [scrape, hi, hrun, hendpoint]
    cases (net.get (urlOf m.target.scheme (w.address ++ ":" ++ Decimal.text n) m.target.path)
      e.world).1 with
    | failed cause => rfl
    | answered status body => cases hok : Http.isSuccess status <;> simp [scrapeOutcome, hok]

theorem authority_urlOf (scheme : Scheme) {address path : String}
    (haddress : ∀ c ∈ address.toList, Url.isAuthorityEnd c = false)
    (hpath : path.toList.head? = some '/') :
    ∃ rest, (urlOf scheme address path).toList = (scheme.text ++ "://").toList ++ rest ∧
      rest.takeWhile (!Url.isAuthorityEnd ·) = address.toList := by
  refine ⟨address.toList ++ path.toList, by simp [urlOf], ?_⟩
  obtain ⟨tail, htail⟩ : ∃ tail, path.toList = '/' :: tail := by
    cases hp : path.toList with
    | nil => simp [hp] at hpath
    | cons c tail =>
      rw [hp] at hpath
      exact ⟨tail, by rw [Option.some.inj hpath]⟩
  rw [List.takeWhile_append_of_pos (fun c hc => by simp [haddress c hc]), htail,
    List.takeWhile_cons_of_neg (by decide), List.append_nil]

/-- Where the probes and scrapes of a run go, at each state it goes through. -/
structure Directing (b : Backend σ κ) : Prop where
  reached : ∀ net e, Reachable b net e → Course b net e
  waiting : ∀ net e, Course b net e → ∀ i p last n last' e',
    Unsettled (readyRound b net i p) last e n last' e' → Course b net e'
  closing : ∀ net e, Course b net e → ∀ before c after done rest,
    e.closers = before ++ c :: after → c.requests = done ++ rest →
    Course b net (Request.applyAllClosed b net done
      ((before.foldl (fun e c => e.runCloser b net c) e.sealed).noteCloser c))
  supplied : ∀ net e, Course b net e → ∀ r ∈ e.runnables, r.Supplied b e.scope
  declared : ∀ net e, Course b net e → ∀ i r p, e.runnables[i]? = some r →
    r.options.readiness = some p → (∀ port, p.port = some port → port ∈ r.ports.keys) ∧
      ∀ name port, (check b net i p e).1 ≠ .error (.undeclaredPort name port)
  http : ∀ net e, Course b net e → ∀ i r (p : HttpProbe), e.runnables[i]? = some r →
    p.port ∈ r.ports.keys → Directed e r p.port
      (fun address net => net.get (urlOf p.scheme address p.path))
      fun net => check b net i (.http p)
  tcp : ∀ net e, Course b net e → ∀ i r port, e.runnables[i]? = some r → port ∈ r.ports.keys →
    Directed e r port (fun address net => net.dial address) fun net => check b net i (.tcp port)
  undeclared : ∀ (net : Network σ) (e : Environment σ κ) i r p port, e.runnables[i]? = some r →
    p.port = some port → port ∉ r.ports.keys →
    check b net i p e = (.error (.undeclaredPort r.name port), e)
  scraping : ∀ net e, Course b net e → ∀ i t m, (instrument i t e).1 = .ok m →
    ∀ e', Later b net ((instrument i t).after e) e' →
    ∃ r, e'.runnables[m.runnable]? = some r ∧ Directed e' r m.target.port
      (fun address net => net.get (urlOf m.target.scheme address m.target.path))
      fun net => scrape net m

theorem check_ne_undeclared (net : Network σ) (hs : r.Served) (hi : e.runnables[i]? = some r)
    {p : Probe} (hp : ∀ port, p.port = some port → port ∈ r.ports.keys) (name port : String) :
    (check b net i p e).1 ≠ .error (.undeclaredPort name port) := by
  have haddress : ∀ port', p.port = some port' →
      e.address i port' = .error (.notRunning r.name) ∨
        ∃ address, e.address i port' = .ok address := by
    intro port' hport
    cases hrun : r.lifecycle.isRunning with
    | false => exact .inl (address_of_stopped hs hi (hp port' hport) hrun)
    | true =>
      obtain ⟨w, n, -, -, -, ha⟩ := address_of_running hs hi (hp port' hport) hrun
      exact .inr ⟨_, ha⟩
  intro h
  cases p with
  | http p =>
    rcases haddress p.port rfl with ha | ⟨address, ha⟩ <;> simp only [check, checkHttp, ha] at h
    · cases h
    · cases hj : judge p (urlOf p.scheme address p.path)
          (net.get (urlOf p.scheme address p.path) e.world).1 <;>
        simp [hj, Except.mapError] at h
  | tcp port' =>
    rcases haddress port' rfl with ha | ⟨address, ha⟩ <;> simp only [check, checkTcp, ha] at h
    · cases h
    · cases hd : (net.dial address e.world).1 <;> simp [hd, Except.mapError] at h
  | command c =>
    simp only [check, checkCommand] at h
    split at h <;> cases h

theorem directing_of_resolves (hb : b.Resolves) : Directing b where
  reached net e := by
    rintro ⟨c, temp, suffix, world, e₀, rs, hc, rfl⟩
    exact ⟨c, temp, suffix, world, e₀, hc, Later.start.run rs⟩
  waiting net e hc i p last n last' e' h := hc.later (.unsettled h)
  closing net e hc before c after done rest _ _ :=
    hc.later (((Later.start.sealed.runClosers before).closer c).applyAllClosed done)
  supplied _ _ hc := hc.supplied
  declared net e hc i r p hi hp := by
    have hm := List.mem_of_getElem? hi
    have hdeclared : ∀ port, p.port = some port → port ∈ r.ports.keys :=
      fun _ => (hc.accepted r hm).declared hp
    exact ⟨hdeclared, check_ne_undeclared net (hc.served hb r hm) hi hdeclared⟩
  http net e hc i r p hi hp :=
    directed_of_address (hc.served hb r (List.mem_of_getElem? hi)) hi hp
      (fun address reply => (judge p (urlOf p.scheme address p.path) reply).mapError .probe)
      fun net => rfl
  tcp net e hc i r port hi hp :=
    directed_of_address (hc.served hb r (List.mem_of_getElem? hi)) hi hp
      (fun _ result => result.mapError .probe) fun net => rfl
  undeclared net e i r p port hi hp hnot := by
    cases p with
    | http p =>
      cases hp
      simp only [check, checkHttp, address_of_undeclared hi hnot]
    | tcp port' =>
      cases hp
      simp only [check, checkTcp, address_of_undeclared hi hnot]
    | command c => cases hp
  scraping net e hc i t m hm e' hl := by
    obtain ⟨rfl, hdeclares⟩ := declares_of_instrument hm
    obtain ⟨r, hi, hp⟩ := (standing_declares b i t.port).later hl hdeclares
    have hc' := (hc.later (Later.start.instrumented i t)).later hl
    have hs := hc'.served hb r (List.mem_of_getElem? hi)
    exact ⟨r, hi, directed_of_address hs hi hp
      (fun address => scrapeOutcome r.name (urlOf t.scheme address t.path))
      (scrape_eq_of_declared (m := ⟨i, t⟩) hs hi hp)⟩

/-- No probe of a runnable's own and no scrape goes anywhere but to the workload that it holds;
with a path that starts with a slash, a URL has no other authority than the address. -/
theorem requests_directed : Directing StandIn.backend ∧
    (∀ {σ : Type} (ts : Tools σ) (d : Docker.Engine), Directing (Docker.backend ts d)) ∧
    (∀ {σ : Type} (ts : Tools σ) (k : Kind.Engine), Directing (Kind.backend ts k)) ∧
    ∀ (scheme : Scheme) (address path : String),
      (∀ c ∈ address.toList, Url.isAuthorityEnd c = false) → path.toList.head? = some '/' →
      ∃ rest, (urlOf scheme address path).toList = (scheme.text ++ "://").toList ++ rest ∧
        rest.takeWhile (!Url.isAuthorityEnd ·) = address.toList :=
  ⟨directing_of_resolves StandIn.resolves,
    fun ts d => directing_of_resolves (Docker.resolves ts d),
    fun ts k => directing_of_resolves (Kind.resolves ts k),
    fun scheme _ _ => authority_urlOf scheme⟩

def probed (path : String) : List Request :=
  [.initialise ⟨"a", Table.empty.insert "http" 80⟩
    { Options.ofImage "image" with readiness := some (.http (.plain "http" path)) }, .start 0]

def pinned (port : Nat) : World StandIn.State :=
  ⟨.empty, .empty, { StandIn.State.empty with
    staging := StandIn.Staging.empty.pin "a" "http" port }⟩

theorem requests_directed_probed :
    let b := StandIn.backend
    ∃ e : Environment StandIn.State String, Reachable b StandIn.network e ∧
      Asks "http://127.0.0.1:8080/ready" e
        (fun net => check b net 0 (.http (.plain "http" "/ready"))) ∧
      ∀ net, check b net 0 (.http (.plain "http" "/ready")) (run b StandIn.network [.close] e) =
        (.error (.notRunning "a"), run b StandIn.network [.close] e) := by
  intro b
  obtain ⟨e, hr, hp⟩ := exists_reachable b StandIn.network (.ofName "bed") "/tmp" "Ab3dE9"
    (pinned 8080) (probed "/ready")
    (fun e => (e.runnables[0]?.any fun r => "http" ∈ r.ports.keys ∧ r.lifecycle.isRunning ∧
        r.endpoint "http" = "127.0.0.1:8080") ∧
      (run b StandIn.network [.close] e).runnables[0]?.any fun r => "http" ∈ r.ports.keys ∧
        r.name = "a" ∧ r.lifecycle.isRunning = false) (by decide +kernel)
  obtain ⟨hbefore, hafter⟩ := of_decide_eq_true hp
  obtain ⟨r, hi, hd⟩ := (Option.any_eq_true _ _).mp hbefore
  obtain ⟨hport, hrun, hendpoint⟩ := of_decide_eq_true hd
  obtain ⟨r', hi', hd'⟩ := (Option.any_eq_true _ _).mp hafter
  obtain ⟨hport', hname, hstopped⟩ := of_decide_eq_true hd'
  have hc := requests_directed.1.reached StandIn.network e hr
  have hs := hr.served StandIn.resolves r (List.mem_of_getElem? hi)
  have hasks := (requests_directed.1.http StandIn.network e hc 0 r (.plain "http" "/ready") hi
    hport).asks hs hport hrun
  have hurl : urlOf .http (r.endpoint "http") "/ready" = "http://127.0.0.1:8080/ready" := by
    rw [hendpoint]
    decide +kernel
  have hc' := hc.later (Later.start.run [.close])
  have hsilent := (requests_directed.1.http StandIn.network _ hc' 0 r' (.plain "http" "/ready")
    hi' hport').stopped hstopped
  rw [hname] at hsilent
  exact ⟨e, hr, hurl ▸ hasks, hsilent⟩

/-- While a runnable runs at an endpoint, its probe and its scrapes at a path ask a URL. -/
def Sends (b : Backend StandIn.State κ) (endpoint path url : String) : Prop :=
  ∃ e r m, Reachable b StandIn.network e ∧ e.runnables[0]? = some r ∧
    r.options.readiness = some (.http (.plain "http" path)) ∧
    r.lifecycle.isRunning = true ∧ r.endpoint "http" = endpoint ∧
    Asks url e (fun net => check b net 0 (.http (.plain "http" path))) ∧
    (instrument 0 ⟨"http", path, .http⟩ e).1 = .ok m ∧
    Asks url ((instrument 0 ⟨"http", path, .http⟩).after e) (fun net => scrape net m)

def runsAt (endpoint path : String) (e : Environment σ κ) : Bool :=
  e.runnables[0]?.any fun r => "http" ∈ r.ports.keys ∧
    r.options.readiness = some (.http (.plain "http" path)) ∧ r.lifecycle.isRunning ∧
    r.endpoint "http" = endpoint

theorem sends_of_resolves {b : Backend StandIn.State κ} {endpoint path : String}
    (hb : b.Resolves) (world : World StandIn.State)
    (h : (create b StandIn.network (.ofName "bed") "/tmp" "Ab3dE9" world).toOption.any
      (fun e => runsAt endpoint path (run b StandIn.network (probed path) e)) = true) :
    Sends b endpoint path (urlOf .http endpoint path) := by
  obtain ⟨e, hr, hp⟩ := exists_reachable b _ _ _ _ world _ (runsAt endpoint path) h
  obtain ⟨r, hi, hd⟩ := (Option.any_eq_true _ _).mp hp
  obtain ⟨hport, hprobe, hrun, rfl⟩ := of_decide_eq_true hd
  have hs := hr.served hb r (List.mem_of_getElem? hi)
  have hdirecting := directing_of_resolves hb
  have hc := hdirecting.reached _ e hr
  let t : Target := ⟨"http", path, .http⟩
  have hmade : instrument 0 t e =
      (.ok ⟨0, t⟩, e.update 0 (retag (·.insert (.target t)))) := by
    rw [instrument, hi]
    exact if_pos (Table.contains_eq_true_iff.mpr hport)
  have hcheck := (hdirecting.http _ e hc 0 r (.plain "http" path) hi hport).asks hs hport hrun
  obtain ⟨r', hi', hscrape⟩ := hdirecting.scraping _ e hc 0 t ⟨0, t⟩ (by rw [hmade]) _ .start
  rw [Act.after, hmade, getElem?_update, if_pos rfl, hi] at hi'
  cases hi'
  refine ⟨e, r, _, hr, hi, hprobe, hrun, rfl, hcheck, by rw [hmade], ?_⟩
  exact hscrape.asks ⟨hs.held, hs.resolved⟩ hport hrun

/-- A path that starts with a digit continues the port, and an address that holds a slash ends
before its port: requests go elsewhere than to the endpoint. -/
theorem requests_misdirected :
    let place (url : String) := (Url.ofString? url).map fun u => (u.host, u.effectivePort)
    Sends StandIn.backend "127.0.0.1:3100" "0/metrics" "http://127.0.0.1:31000/metrics" ∧
    place "http://127.0.0.1:31000/metrics" = some ("127.0.0.1", 31000) ∧
    Sends (Docker.backend StandIn.tools { Docker.engine with hostAddress := "127.0.0.1:9/" })
      "127.0.0.1:9/:32768" "/ready" "http://127.0.0.1:9/:32768/ready" ∧
    place "http://127.0.0.1:9/:32768/ready" = some ("127.0.0.1", 9) := by
  have hpath : urlOf .http "127.0.0.1:3100" "0/metrics" = "http://127.0.0.1:31000/metrics" := by
    decide +kernel
  have haddress : urlOf .http "127.0.0.1:9/:32768" "/ready" =
      "http://127.0.0.1:9/:32768/ready" := by decide +kernel
  refine ⟨hpath ▸ sends_of_resolves StandIn.resolves (pinned 3100) (by decide +kernel),
    by decide +kernel, ?_, by decide +kernel⟩
  exact haddress ▸ sends_of_resolves (Docker.resolves StandIn.tools _)
    ⟨.empty, .empty, publishing⟩ (by decide +kernel)

end Testbed
