import Testbed.Text.Utf8
import Testbed.World

/-!
External tools, and what they do when they are called: a tool runs to its end, or it is left
running with its output going to a log.
-/
namespace Testbed

/-- A tool with the path it was found at and the arguments that every call starts with. -/
structure Tool where
  name : String
  path : String
  base : List String

structure Invocation where
  tool : String
  args : List String
deriving DecidableEq

inductive Ending where
  | exited (code : Nat)
  | signalled (number : Nat)
deriving DecidableEq

namespace Ending

def succeeded (e : Ending) : Bool := e = exited 0

/-- A command that a signal ended has no exit code of its own. -/
def code : Ending → Int
  | exited code => code
  | signalled _ => -1

def signalNames : List (Nat × String) :=
  [(1, "SIGHUP"), (2, "SIGINT"), (3, "SIGQUIT"), (4, "SIGILL"), (5, "SIGTRAP"), (6, "SIGABRT"),
    (7, "SIGBUS"), (8, "SIGFPE"), (9, "SIGKILL"), (10, "SIGUSR1"), (11, "SIGSEGV"),
    (12, "SIGUSR2"), (13, "SIGPIPE"), (14, "SIGALRM"), (15, "SIGTERM")]

def text : Ending → String
  | exited code => "exit status: " ++ Decimal.text code
  | signalled n =>
    let name := match signalNames.lookup n with
      | some name => " (" ++ name ++ ")"
      | none => ""
    "signal: " ++ Decimal.text n ++ name

end Ending

structure Finished where
  stdout : List UInt8
  stderr : List UInt8
  ending : Ending

/-- What tools do. A call or a start fails with a cause if the tool cannot be run at all. A
process that was started is known by a number: `poll` tells whether it has ended, `reap` ends it
if need be and waits until all its output has reached the log. -/
structure Tools (σ : Type) where
  find : String → World σ → Option String
  run : Invocation → World σ → Except String Finished × World σ
  spawn : Invocation → String → World σ → Except String Nat × World σ
  poll : Nat → World σ → Option Ending × World σ
  reap : Nat → World σ → World σ

namespace Tool

variable {σ : Type}

def locate (ts : Tools σ) (name : String) : Act (World σ) Tool := fun w =>
  match ts.find name w with
  | some path => (.ok ⟨name, path, []⟩, w)
  | none => (.error (.toolNotFound name), w)

def withBase (t : Tool) (args : List String) : Tool := { t with base := t.base ++ args }

def describe (t : Tool) (args : List String) : String :=
  " ".intercalate (t.name :: t.base ++ args)

def invocation (t : Tool) (args : List String) : Invocation := ⟨t.name, t.base ++ args⟩

def finish (ts : Tools σ) (t : Tool) (args : List String) : Act (World σ) Finished := fun w =>
  match ts.run (t.invocation args) w with
  | (.ok f, w) => (.ok f, w)
  | (.error cause, w) => (.error (.io t.path cause), w)

def output (ts : Tools σ) (t : Tool) (args : List String) : Act (World σ) String := do
  let f ← t.finish ts args
  if f.ending.succeeded then return Text.trimmed (Text.readLossy f.stdout)
  else
    Act.fail (.tool (t.describe args) f.ending.text (Text.trimmed (Text.readLossy f.stderr)))

def run (ts : Tools σ) (t : Tool) (args : List String) : Act (World σ) Unit := do
  let _ ← t.output ts args

def runBestEffort (ts : Tools σ) (t : Tool) (args : List String) (w : World σ) : World σ :=
  (t.run ts args).after w

def spawn (ts : Tools σ) (t : Tool) (args : List String) (log : String) :
    Act (World σ) Nat := fun w =>
  match ts.spawn (t.invocation args) log w with
  | (.ok p, w) => (.ok p, w)
  | (.error cause, w) => (.error (.io t.path cause), w)

/-- What a sink has received, and whether it refused. A sink that is given nothing refuses
nothing. -/
def pour (sink : Option Sink) (text : String) : String × Bool :=
  match sink with
  | none => ("", false)
  | some .kept => (text, false)
  | some .refusing => ("", text ≠ "")

/-- Runs a tool with its output also going to sinks. Both streams are drained even if a sink
refuses. A tool that fails has still been executed. -/
def exec (ts : Tools σ) (t : Tool) (args : List String) (sinks : ExecSinks) (w : World σ) :
    Executed × World σ :=
  match t.finish ts args w with
  | (.error e, w) => (.failed e, w)
  | (.ok f, w) =>
    let stdout := Text.readLossy f.stdout
    let stderr := Text.readLossy f.stderr
    let (out, outRefused) := pour sinks.stdout stdout
    let (err, errRefused) := pour sinks.stderr stderr
    if outRefused || errRefused then (⟨.error (.io t.path Sink.refusal), out, err⟩, w)
    else (⟨.ok ⟨stdout, stderr, f.ending.code⟩, out, err⟩, w)

variable (ts : Tools σ) (t : Tool) (args : List String) (w : World σ)

theorem after_finish : (t.finish ts args w).2 = (ts.run (t.invocation args) w).2 := by
  unfold finish
  rcases ts.run (t.invocation args) w with ⟨cause | done, w'⟩ <;> rfl

theorem after_output : (t.output ts args w).2 = (ts.run (t.invocation args) w).2 := by
  rw [← after_finish, output]
  rcases hf : t.finish ts args w with ⟨failure | done, w'⟩
  · rw [Act.bind_error hf]
  · rw [Act.bind_ok hf]
    split <;> rfl

theorem after_run : (t.run ts args w).2 = (ts.run (t.invocation args) w).2 := by
  rw [← after_output, run]
  rcases ho : t.output ts args w with ⟨failure | text, w'⟩
  · rw [Act.bind_error ho]
  · rw [Act.bind_ok ho]
    rfl

theorem after_exec (sinks : ExecSinks) :
    (t.exec ts args sinks w).2 = (ts.run (t.invocation args) w).2 := by
  rw [← after_finish, exec]
  rcases t.finish ts args w with ⟨failure | done, w'⟩
  · rfl
  · dsimp only
    split <;> rfl

end Tool

end Testbed
