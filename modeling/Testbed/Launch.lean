import Testbed.Options
import Testbed.Path

/-!
Where workloads run and what a launch asks for. The directory of a scope is shared with every
workload in it.
-/
namespace Testbed

structure Scope where
  name : String
  dir : String
  verbose : Bool

namespace Scope

def logsDir (s : Scope) : String := Path.join s.dir "logs"

def workDir (s : Scope) (runnable : String) : String := Path.join s.dir runnable

end Scope

def logFile (dir runnable : String) : String :=
  Path.join (Path.join dir "logs") (runnable ++ ".log")

structure Launch where
  scope : Scope
  name : String
  ports : Ports
  options : Options

end Testbed
