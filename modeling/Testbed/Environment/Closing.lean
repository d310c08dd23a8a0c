import Testbed.Environment.Readiness

/-!
Closing an environment: what its closers do, the end of what runs in it, of its scope and of its
directory.
-/
namespace Testbed

variable {σ κ : Type}

namespace Environment

def closerView (c : Closer) (e : Environment σ κ) : CloserView :=
  ⟨e.closed, e.started.length, (List.range c.seen).filter (e.isRunning ·)⟩

def noteCloser (c : Closer) (e : Environment σ κ) : Environment σ κ :=
  e.record (.ranCloser c.id (e.closerView c))

end Environment

section Closers

variable (b : Backend σ κ) (net : Network σ)

mutual

/-- What a request does in an environment that is closed: nothing is started there any more, and
a closer is run at once. -/
def Request.applyClosed : Request → Environment σ κ → Environment σ κ
  | .reserve name, e => (Environment.reserve name).after e
  | .settle r, e => (Environment.settle r).after e
  | .initialise f o, e => (Environment.initialise f o).after e
  | .halt how i, e => (Environment.halt b how i).after e
  | .exec i c sinks, e => (Environment.exec b i c sinks e).2
  | .waitReady i, e => (Environment.waitReady b net i).after e
  | .addListener id, e => e.addListener id
  | .addCloser id requests, e =>
    Request.applyAllClosed requests (e.noteCloser ⟨id, e.runnables.length, requests⟩)
  | .start _, e | .close, e | .drop, e => e

def Request.applyAllClosed : List Request → Environment σ κ → Environment σ κ
  | [], e => e
  | r :: rs, e => Request.applyAllClosed rs (r.applyClosed e)

end

end Closers

namespace Environment

def release (e : Environment σ κ) : Environment σ κ :=
  let keep := e.config.keepDir
  let files := if keep then e.world.files else e.world.files.remove e.scope.dir
  { e with world := { e.world with files } }.record (.released !keep)

variable (b : Backend σ κ) (net : Network σ)

def runCloser (c : Closer) (e : Environment σ κ) : Environment σ κ :=
  Request.applyAllClosed b net c.requests (e.noteCloser c)

def addCloser (id : String) (requests : List Request) (e : Environment σ κ) :
    Environment σ κ :=
  let c : Closer := ⟨id, e.runnables.length, requests⟩
  if e.closed then e.runCloser b net c else { e with closers := e.closers ++ [c] }

def destroyScope (e : Environment σ κ) : Environment σ κ :=
  { e with world := b.destroyScope e.scope e.world }.record .scopeDestroyed

def sealed (e : Environment σ κ) : Environment σ κ :=
  { e with closed := true, listeners := [], started := [], closers := [] }

def runClosers (e : Environment σ κ) : Environment σ κ :=
  e.closers.foldl (fun e c => e.runCloser b net c) e.sealed

def killAll (started : List Nat) (e : Environment σ κ) : Environment σ κ :=
  started.foldl (fun e i => (halt b .kill i).after e) e

/-- Runs the closers, kills what was started, the last one first, destroys the scope, and gives
up the directory. A second close does nothing. -/
def close (e : Environment σ κ) : Environment σ κ :=
  if e.closed then e
  else (destroyScope b (killAll b e.started.reverse (e.runClosers b net))).release

end Environment

end Testbed
