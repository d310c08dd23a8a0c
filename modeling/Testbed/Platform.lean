import Testbed.Failure
import Testbed.Text.Blank

/-!
The platforms that workloads run on.
-/
namespace Testbed

inductive Platform where
  | docker
  | kind
deriving DecidableEq

namespace Platform

def default : Platform := docker

def text : Platform → String
  | docker => "docker"
  | kind => "kind"

def title : Platform → String
  | docker => "Docker"
  | kind => "Kind"

def ofString (s : String) : Except Failure Platform :=
  match String.ofList ((Text.trim s.toList).map Char.toLower) with
  | "docker" => .ok docker
  | "kind" | "kubernetes" | "k8s" => .ok kind
  | other => .error (.config (.unknownBackend other))

theorem ofString_text (p : Platform) : ofString p.text = .ok p := by
  cases p <;> rfl

end Platform

end Testbed
