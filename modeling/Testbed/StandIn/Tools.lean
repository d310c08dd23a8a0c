import Testbed.StandIn.State

/-!
Scripted tools: what a call prints and how it ends is the first rule that fits it. Containers
that were started with docker run until they are killed, or end by themselves when they are
inspected or halted.
-/
namespace Testbed.StandIn

def fits : List String → List String → Bool
  | [], _ => true
  | _ :: _, [] => false
  | p :: ps, a :: r => (p == "*" || p == a) && fits ps r

def subject (i : Invocation) : List String :=
  match i.tool, i.args with
  | "kubectl", "--kubeconfig" :: _ :: r => r
  | _, args => args

def Rule.fits (r : Rule) (i : Invocation) : Bool :=
  r.tool == i.tool && StandIn.fits r.args (subject i) && r.times.all (r.used < ·)

def useRule (i : Invocation) : List Rule → Option Rule × List Rule
  | [] => (none, [])
  | r :: rs =>
    if r.fits i then (some r, { r with used := r.used + 1 } :: rs)
    else
      let (found, rs) := useRule i rs
      (found, r :: rs)

def startedContainer (args : List String) : Option String :=
  args.findSome? fun a =>
    if "--name=".toList.isPrefixOf a.toList then some (String.ofList (a.toList.drop 7)) else none

def endsAt (i : Invocation) : Option Mode :=
  match i.tool, i.args with
  | "docker", "inspect" :: _ => some .endAtInspection
  | "docker", "stop" :: _ => some .endAtHalt
  | "docker", "kill" :: _ => some .endAtHalt
  | _, _ => none

def Process.afterCall (i : Invocation) (p : Process) : Process :=
  match endsAt i with
  | some m =>
    if p.mode = m ∧ p.container.isSome ∧ p.container = i.args.getLast? then
      { p with ended := true }
    else p
  | none => p

def isThere (tool : String) (s : State) : Bool := s.tools.contains tool

def find (tool : String) (w : World State) : Option String :=
  if isThere tool w.rest then some (Path.join w.rest.bin tool) else none

def run (i : Invocation) (w : World State) : Except String Finished × World State :=
  let s := w.rest
  if !isThere i.tool s then (.error FileError.missing.text, w)
  else
    let (rule, rules) := useRule i s.rules
    let finished := match rule with
      | some r => ⟨r.stdout, r.stderr, r.ending⟩
      | none => ⟨[], [], .exited 0⟩
    (.ok finished, { w with rest := { s with
      rules, calls := s.calls ++ [i], processes := s.processes.map (·.afterCall i) } })

def spawn (i : Invocation) (log : String) (w : World State) :
    Except String Nat × World State :=
  let s := w.rest
  if !isThere i.tool s then (.error FileError.missing.text, w)
  else
    let (rule, rules) := useRule i s.rules
    let p : Process := match rule with
      | some r => ⟨startedContainer i.args, log, r.stdout, r.stderr, r.ending, r.mode, false, false⟩
      | none => ⟨startedContainer i.args, log, [], [], .exited 0, .block, false, false⟩
    (.ok s.processes.length, { w with rest := { s with
      rules, spawned := s.spawned ++ [i], processes := s.processes ++ [p] } })

def poll (pid : Nat) (w : World State) : Option Ending × World State :=
  match w.rest.processes[pid]? with
  | some p => (if p.ended then some p.ending else none, w)
  | none => (none, w)

/-- The output of a process reaches its log once. -/
def reap (pid : Nat) (w : World State) : World State :=
  match w.rest.processes[pid]? with
  | none => w
  | some p =>
    if p.reaped then w
    else
      let lines := Text.streamLines p.stdout ++ Text.streamLines p.stderr
      let text := String.join (lines.map (· ++ "\n"))
      { w with
        files := w.files.extend p.log text
        rest := { w.rest with
          processes := w.rest.processes.set pid { p with ended := true, reaped := true } } }

def tools : Tools State := ⟨find, run, spawn, poll, reap⟩

end Testbed.StandIn
