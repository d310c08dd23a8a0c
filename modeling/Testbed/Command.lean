import Testbed.Failure

/-!
Commands to run in a workload, and what came of them.
-/
namespace Testbed

structure Command where
  program : String
  args : List String
  noEntrypoint : Bool
deriving DecidableEq

namespace Command

def argv (c : Command) : List String := c.program :: c.args

def isEmpty (c : Command) : Bool := c.program = "" && c.args.isEmpty

def text (c : Command) : String := " ".intercalate c.argv

def debug (c : Command) : String :=
  "Command \x7b cmd: " ++ Text.quoted c.program ++ ", args: " ++
    Text.bracketed (c.args.map Text.quoted) ++ ", entrypoint_disabled: " ++
    (if c.noEntrypoint then "true" else "false") ++ " \x7d"

end Command

/-- Exit codes are those of the command, or `-1` if a signal ended it. -/
structure ExecOutput where
  stdout : String
  stderr : String
  exitCode : Int

def ExecOutput.succeeded (o : ExecOutput) : Bool := o.exitCode = 0

inductive Sink where
  | kept
  | refusing
deriving DecidableEq

def Sink.refusal : String := "sink refused"

structure ExecSinks where
  stdout : Option Sink
  stderr : Option Sink

structure Executed where
  result : Except Failure ExecOutput
  stdout : String
  stderr : String

def Executed.failed (e : Failure) : Executed := ⟨.error e, "", ""⟩

def ExecSinks.none : ExecSinks := ⟨Option.none, Option.none⟩

def ExecSinks.text (s : ExecSinks) : String :=
  let flag (b : Bool) : String := if b then "true" else "false"
  "ExecOptions \x7b stdout: " ++ flag s.stdout.isSome ++ ", stderr: " ++ flag s.stderr.isSome ++
    " \x7d"

end Testbed
