import Testbed.Environment.Basic
import Testbed.Environment.Run
import Testbed.Http
import Testbed.Metrics.Document
import Testbed.Metrics.Expectation

/-!
Reading metrics from runnables: scraping one, summing over several, and waiting for sums to meet
an expectation.
-/
namespace Testbed.Metrics

variable {σ κ : Type}

structure Instrumented where
  runnable : Nat
  target : Target

/-- One runnable, or several that are summed as one. -/
inductive Source where
  | single (m : Instrumented)
  | composite (name : String) (members : List Instrumented)

def Source.members : Source → List Instrumented
  | single m => [m]
  | composite _ ms => ms

def Source.name (e : Environment σ κ) : Source → String
  | single m => e.nameOf m.runnable
  | composite name _ => name

def instrument (i : Nat) (t : Target) : Act (Environment σ κ) Instrumented := fun e =>
  match e.runnables[i]? with
  | none => (.error (.notRunning ""), e)
  | some r =>
    if r.ports.contains t.port then
      (.ok ⟨i, t⟩, e.update i fun r => { r with tags := r.tags.insert (.target t) })
    else (.error (.undeclaredPort r.name t.port), e)

def taggedTarget? (r : Runnable κ) : Option Target :=
  match r.tags.get? .target with
  | some (.target t) => some t
  | _ => none

def Source.compose (name : String) : List Instrumented → Except Failure Source
  | [] => .error (.config (.noMembers name))
  | ms => .ok (composite name ms)

structure ScrapeTarget where
  runnable : String
  address : String
  path : String
  scheme : Scheme

def Instrumented.scrapeTarget (b : Backend σ κ) (e : Environment σ κ) (m : Instrumented) :
    ScrapeTarget :=
  let name := e.nameOf m.runnable
  let ports := (e.runnables[m.runnable]?.map (·.ports)).getD .empty
  ⟨name, internalEndpoint b e.scope name ports m.target.port, m.target.path, m.target.scheme⟩

def Source.targets (b : Backend σ κ) (e : Environment σ κ) (s : Source) : List ScrapeTarget :=
  s.members.map (·.scrapeTarget b e)

section Scraping

variable (net : Network σ)

def scrape (m : Instrumented) : Act (Environment σ κ) String := fun e =>
  match e.runnables[m.runnable]? with
  | none => (.error (.notRunning ""), e)
  | some r =>
    if !r.lifecycle.isRunning then (.error (.notRunning r.name), e)
    else
      let url := urlOf m.target.scheme (r.endpoint m.target.port) m.target.path
      let (reply, world) := net.get url e.world
      let e := { e with world }
      match reply with
      | .failed cause => (.error (.scrape r.name (.request url cause)), e)
      | .answered status body =>
        if Http.isSuccess status then (.ok body, e)
        else (.error (.scrape r.name (.wrongStatus url (Http.statusText status))), e)

def families (m : Instrumented) : Act (Environment σ κ) Families := do
  let text ← scrape net m
  let name ← Act.asks (·.nameOf m.runnable)
  match parse text with
  | .ok fs => return fs
  | .error e => Act.fail (.scrape name (.document e.message))

def sumsIn (runnable : String) (s : Selection) (fs : Families) :
    List String → Except Failure (List Float)
  | [] => .ok []
  | name :: r => do
    let sum ← match (fs.get? name).bind s.sum, s.missing with
      | some x, _ => .ok x
      | none, .zero => .ok 0.0
      | none, _ => .error (.missingMetric name runnable)
    return sum :: (← sumsIn runnable s fs r)

def sumsOf (m : Instrumented) (names : List String) (s : Selection) :
    Act (Environment σ κ) (List Float) := do
  let fs ← families net m
  let name ← Act.asks (·.nameOf m.runnable)
  Act.ofExcept (sumsIn name s fs names)

def addSums (names : List String) (s : Selection) :
    List Float → List Instrumented → Act (Environment σ κ) (List Float)
  | sums, [] => pure sums
  | sums, m :: ms => do
    let part ← sumsOf net m names s
    addSums names s (sums.zipWith (· + ·) part) ms

/-- The sums of metrics; those of a composite start from zero. -/
def Source.sums (names : List String) (s : Selection) :
    Source → Act (Environment σ κ) (List Float)
  | single m => sumsOf net m names s
  | composite _ ms => addSums net names s (names.map fun _ => 0.0) ms

def exportsOf (m : Instrumented) (name : String) (s : Selection) :
    Act (Environment σ κ) Bool := do
  let fs ← families net m
  return match fs.get? name with
    | some f => f.series.any s.selects
    | none => false

/-- Members are asked in order, up to the first that exports the metric. -/
def anyExports (name : String) (s : Selection) :
    List Instrumented → Act (Environment σ κ) Bool
  | [] => pure false
  | m :: ms => do
    if ← exportsOf net m name s then return true
    anyExports name s ms

def Source.exports (name : String) (s : Selection) (source : Source) :
    Act (Environment σ κ) Bool :=
  anyExports net name s source.members

end Scraping

section Waiting

variable {S : Type}

structure Seen where
  sums : List Float
  error : Option Failure

/-- A round ends the wait if the sums are accepted or if it fails for good. -/
def sumRound (sum : Act S (List Float)) (x : Expectation) (s : Selection) (seen : Seen) (st : S) :
    (Except Failure Unit ⊕ Seen) × S :=
  match sum st with
  | (.ok sums, st) =>
    if x.accepts sums then (.inl (.ok ()), st) else (.inr { seen with sums }, st)
  | (.error f, st) =>
    if f.isMissingMetric && s.missing = .wait then (.inr { seen with error := some f }, st)
    else (.inl (.error f), st)

def waitSums (source : String) (sum : Act S (List Float)) (x : Expectation)
    (names : List String) (s : Selection) : Act S Unit := fun st =>
  match x.checkArity names.length with
  | .error f => (.error f, st)
  | .ok () =>
    match paced s.waitPolicy (sumRound sum x s) ⟨[], none⟩ st with
    | (.settled r, st) => (r, st)
    | (.exhausted seen, st) =>
      (.error (.expectationNotMet source names x.description seen.sums
        (seen.error.map (·.message))), st)
    | (.undrawable, st) => (.error (.panicked Wait.emptyWindow), st)

def removalRound (isExported : Act S Bool) (_ : Unit) (st : S) :
    (Except Failure Unit ⊕ Unit) × S :=
  match isExported st with
  | (.ok true, st) => (.inr (), st)
  | (.ok false, st) => (.inl (.ok ()), st)
  | (.error f, st) => (.inl (.error f), st)

def waitRemoved (source : String) (isExported : Act S Bool) (name : String) (s : Selection) :
    Act S Unit := fun st =>
  match paced s.waitPolicy (removalRound isExported) () st with
  | (.settled r, st) => (r, st)
  | (.exhausted (), st) =>
    (.error (.expectationNotMet source [name] "metric no longer exported" [] none), st)
  | (.undrawable, st) => (.error (.panicked Wait.emptyWindow), st)

end Waiting

/-- Stops every member, whatever comes of the others; the first failure counts. -/
def stopAll (b : Backend σ κ) : List Instrumented → Act (Environment σ κ) Unit
  | [] => pure ()
  | m :: ms => do
    let first ← (Environment.halt b .stop m.runnable).attempt
    let rest ← (stopAll b ms).attempt
    Act.ofExcept first
    Act.ofExcept rest

end Testbed.Metrics
