import Testbed.Environment.Closing

/-!
Creating an environment: its directory, the directory of its logs, and its scope.
-/
namespace Testbed

variable {σ κ : Type}

structure Abandoned (σ κ : Type) where
  failure : Failure
  world : World σ
  history : List (Happening κ)

namespace Environment

/-- The directory of an environment; `suffix` is six characters that make it new. -/
def directory (base name suffix : String) : String :=
  Path.join base ("rigging_" ++ name ++ "_" ++ suffix)

def checkConfig (c : Config) : Except Failure Unit := do
  checkName "environment" c.name
  c.readyBackoff.check

def initial (c : Config) (dir : String) (w : World σ) : Environment σ κ where
  config := c
  scope := ⟨c.name, dir, c.verbose⟩
  world := w
  reserved := []
  runnables := []
  started := []
  listeners := []
  closers := []
  closed := false
  history := []

def makeDirectory (base dir : String) : Act (World σ) Unit := do
  World.makeDirectories base
  World.onFiles base (·.makeDirectory dir)

variable (b : Backend σ κ) (net : Network σ)

def giveUp (f : Failure) (e : Environment σ κ) : Abandoned σ κ :=
  let e := close b net e
  ⟨f, e.world, e.history⟩

def prepare (e : Environment σ κ) : Except (Abandoned σ κ) (Environment σ κ) :=
  match onWorld (World.makeDirectories e.scope.logsDir) e with
  | (.error f, e) => .error (e.giveUp b net f)
  | (.ok (), e) =>
    match onWorld (b.createScope e.scope) e with
    | (.error f, e) => .error ((e.record (.scopeCreated false)).giveUp b net f)
    | (.ok (), e) => .ok (e.record (.scopeCreated true))

/-- `temp` is the base directory where the configuration names none. -/
def create (c : Config) (temp suffix : String) (w : World σ) :
    Except (Abandoned σ κ) (Environment σ κ) :=
  match checkConfig c with
  | .error f => .error ⟨f, w, []⟩
  | .ok () =>
    let base := c.baseDir.getD temp
    let dir := directory base c.name suffix
    match makeDirectory base dir w with
    | (.error f, w) => .error ⟨f, w, []⟩
    | (.ok (), w) => prepare b net (initial c dir w)

end Environment

end Testbed
