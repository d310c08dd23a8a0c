import Testbed.Launch

/-!
The arguments that start a workload as a docker container.
-/
namespace Testbed.Docker

def scopeLabel (scope : String) : String := "rigging.scope=" ++ scope

def containerName (scope runnable : String) : String := scope ++ "-" ++ runnable

def flag (name : String) (set : Bool) : List String := if set then [name] else []

def setting (name : String) (value : Option String) : List String :=
  match value with
  | none => []
  | some v => [name ++ "=" ++ v]

def each (name : String) (values : List String) : List String :=
  values.flatMap fun v => [name, v]

/-- The image and what its container runs; a command without entrypoint replaces the image's
own. -/
def imageArguments (image : String) : Option Command → List String
  | none => [image]
  | some c =>
    if c.noEntrypoint then ("--entrypoint=" ++ c.program) :: image :: c.args
    else image :: (if c.program = "" then c.args else c.argv)

def runArguments (l : Launch) : List String :=
  let container := containerName l.scope.name l.name
  let o := l.options
  ["run", "--rm", "--net=" ++ l.scope.name, "--name=" ++ container, "--hostname=" ++ container,
    "--label", scopeLabel l.scope.name, "-v", l.scope.dir ++ ":" ++ l.scope.dir ++ ":z"] ++
  each "-e" (o.env.entries.map fun e => e.1 ++ "=" ++ e.2) ++
  setting "--user" o.user ++
  each "-p" (l.ports.values.map Decimal.text) ++
  each "-v" o.volumes ++
  setting "--memory" (o.limits.memory.map fun n => Decimal.text n ++ "b") ++
  setting "--cpus" (o.limits.cpus.map Decimal.plain) ++
  flag "--privileged" o.privileged ++
  o.capabilities.map (fun c => "--cap-add=" ++ c) ++
  flag "--pid=host" (o.pidMode = .host) ++
  imageArguments o.image o.command

end Testbed.Docker
