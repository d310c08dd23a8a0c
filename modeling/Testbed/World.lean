import Testbed.Act
import Testbed.Files
import Testbed.Launch

/-!
The world that environments live in: files, clusters, and whatever else a backend acts on.
-/
namespace Testbed

/-- `clusters` holds the node address of each cluster that was set up, by its name. -/
structure World (σ : Type) where
  files : Files
  clusters : Table String
  rest : σ

namespace World

variable {σ : Type}

def onFiles (path : String) (op : Files → Except FileError Files) : Act (World σ) Unit :=
  fun w =>
    match op w.files with
    | .ok files => (.ok (), { w with files })
    | .error e => (.error (.io path e.text), w)

theorem onFiles_cases (path : String) (op : Files → Except FileError Files) (w : World σ) :
    (∃ files, op w.files = .ok files ∧ onFiles path op w = (.ok (), { w with files })) ∨
      ∃ cause, onFiles path op w = (.error (.io path cause), w) := by
  unfold onFiles
  cases op w.files with
  | ok files => exact .inl ⟨files, rfl, rfl⟩
  | error e => exact .inr ⟨e.text, rfl⟩

def makeDirectories (path : String) : Act (World σ) Unit :=
  onFiles path (·.makeDirectories path)

def writeFile (path text : String) : Act (World σ) Unit := onFiles path (·.write path text)

def appendLog (dir runnable line : String) : Act (World σ) Unit := do
  let path := logFile dir runnable
  let parent := Path.parent path
  onFiles parent (·.makeDirectories parent)
  onFiles path (·.append path (line ++ "\n"))

def readLog (dir runnable : String) : Act (World σ) String := fun w =>
  let path := logFile dir runnable
  if w.files.exists? path then
    match w.files.read path with
    | .ok text => (.ok text, w)
    | .error e => (.error (.io path e.text), w)
  else (.ok "", w)

end World

end Testbed
