import Testbed.Failure
import Testbed.Text.Blank

/-!
Reading what docker prints: whether a container runs, and where a port of it is published.
-/
namespace Testbed.Docker

def readRunning (command output : String) : Except Failure Bool :=
  match Text.trimmed output with
  | "true" => .ok true
  | "false" => .ok false
  | _ => .error (.parse command .notBoolean output)

def splitLast (stop : Char) (s : List Char) : Option (List Char × List Char) :=
  let after := s.reverse.takeWhile (· ≠ stop)
  match s.reverse.dropWhile (· ≠ stop) with
  | [] => none
  | _ :: before => some (before.reverse, after.reverse)

def readMapping (line : List Char) : Except OutputError Nat :=
  let shown := String.ofList line
  match splitLast ':' line with
  | none => .error (.notAddressPort shown)
  | some (address, port) =>
    if address = [] then .error (.noAddress shown)
    else
      match Decimal.readUpTo 65535 port with
      | none | some 0 => .error (.noPort shown)
      | some p => .ok p

/-- The port all lines agree on; `found` is that of the lines before. -/
def agree (found : Option Nat) : List (List Char) → Except OutputError Nat
  | [] =>
    match found with
    | none => .error .noMapping
    | some p => .ok p
  | line :: r => do
    let p ← readMapping line
    match found with
    | some q => if q = p then agree found r else .error (.conflict q p)
    | none => agree (some p) r

def outputLines (output : String) : List (List Char) :=
  ((Text.lines output.toList).map Text.trim).filter (· ≠ [])

/-- The host port in a listing with one line for each address family. -/
def readPort (command output : String) : Except Failure Nat :=
  match agree none (outputLines output) with
  | .ok p => .ok p
  | .error e => .error (.parse command e output)

end Testbed.Docker
