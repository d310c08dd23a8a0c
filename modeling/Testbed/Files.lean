import Testbed.Path
import Testbed.Table

/-!
A tree of directories and text files. Entries are kept under their place, the names that lead
to them from the root; a path names a place by the components it goes through.
-/
namespace Testbed

inductive Entry where
  | directory
  | file (text : String)
deriving DecidableEq

structure Files where
  entries : Table Entry

inductive FileError where
  | missing
  | occupied
  | notDirectory
  | isDirectory
  | nameTooLong
  | badName
deriving DecidableEq

def FileError.text : FileError → String
  | missing => "No such file or directory (os error 2)"
  | occupied => "File exists (os error 17)"
  | notDirectory => "Not a directory (os error 20)"
  | isDirectory => "Is a directory (os error 21)"
  | nameTooLong => "File name too long (os error 36)"
  | badName => "file name contained an unexpected NUL byte"

namespace Files

abbrev Place := List String

def empty : Files := ⟨.empty⟩

def key (p : Place) : String := "/".intercalate p

def entry? (f : Files) (p : Place) : Option Entry :=
  if p = [] then some .directory else f.entries.get? (key p)

def put (f : Files) (p : Place) (e : Entry) : Files := ⟨f.entries.insert (key p) e⟩

/-- Goes through components from a place that has to be a directory. The place reached need not
be there. -/
def walk (f : Files) (p : Place) : List String → Except FileError Place
  | [] => .ok p
  | c :: r =>
    match f.entry? p with
    | none => .error .missing
    | some (.file _) => .error .notDirectory
    | some .directory =>
      if c = "/" then walk f [] r
      else if c = "." then walk f p r
      else if c = ".." then walk f p.dropLast r
      else if 255 < c.utf8ByteSize then .error .nameTooLong
      else walk f (p ++ [c]) r

def walkFromRoot (f : Files) (cs : List String) : Except FileError Place :=
  if cs.any (·.toList.contains '\x00') then .error .badName else walk f [] cs

def locate (f : Files) (path : String) : Except FileError Place :=
  f.walkFromRoot (Path.components path)

def lookUp (f : Files) (path : String) : Option Entry :=
  match f.locate path with
  | .ok p => f.entry? p
  | .error _ => none

def exists? (f : Files) (path : String) : Bool := (f.lookUp path).isSome

def isDirectoryAt (f : Files) (cs : List String) : Bool :=
  match f.walkFromRoot cs with
  | .ok p => f.entry? p = some .directory
  | .error _ => false

def makeDirectoryAt (f : Files) (cs : List String) : Except FileError Files := do
  let p ← f.walkFromRoot cs
  if (f.entry? p).isSome then .error .occupied else .ok (f.put p .directory)

def makeDirectory (f : Files) (path : String) : Except FileError Files :=
  f.makeDirectoryAt (Path.components path)

def ensureDirectoryAt (f : Files) (cs : List String) : Except FileError Files :=
  match f.makeDirectoryAt cs with
  | .ok f => .ok f
  | .error e => if f.isDirectoryAt cs then .ok f else .error e

def makeDirectoriesAt (f : Files) : List String → Except FileError Files
  | [] => .ok f
  | c :: r =>
    match f.ensureDirectoryAt (c :: r).reverse with
    | .ok f => .ok f
    | .error .missing => do (← makeDirectoriesAt f r).ensureDirectoryAt (c :: r).reverse
    | .error e => .error e

def makeDirectories (f : Files) (path : String) : Except FileError Files :=
  f.makeDirectoriesAt (Path.components path).reverse

def edit (f : Files) (path : String) (change : String → String) : Except FileError Files := do
  let p ← f.locate path
  match f.entry? p with
  | some .directory => .error .isDirectory
  | some (.file text) => .ok (f.put p (.file (change text)))
  | none => .ok (f.put p (.file (change "")))

def write (f : Files) (path text : String) : Except FileError Files := f.edit path fun _ => text

def append (f : Files) (path text : String) : Except FileError Files := f.edit path (· ++ text)

def extend (f : Files) (path text : String) : Files :=
  match f.lookUp path with
  | some (.file _) => (f.append path text).toOption.getD f
  | _ => f

def read (f : Files) (path : String) : Except FileError String := do
  match f.entry? (← f.locate path) with
  | none => .error .missing
  | some .directory => .error .isDirectory
  | some (.file text) => .ok text

def remove (f : Files) (path : String) : Files :=
  match f.locate path with
  | .error _ => f
  | .ok p =>
    let below := key p ++ "/"
    ⟨f.entries.filterKeys fun k => k ≠ key p && !below.toList.isPrefixOf k.toList⟩

def names (f : Files) (path : String) : List String :=
  match f.locate path with
  | .error _ => []
  | .ok p =>
    let above := (if p = [] then "" else key p ++ "/").toList
    (f.entries.keys.filter fun k =>
      above.isPrefixOf k.toList && !(k.toList.drop above.length).contains '/').map
      fun k => String.ofList (k.toList.drop above.length)

end Files

end Testbed
