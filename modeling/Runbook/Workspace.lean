import Runbook.Path
import Runbook.Table
import Runbook.Time.Instant

/-!
A tree of folders and files, and the walk along a path in it. A walk goes only through folders
that exist: a step up out of a missing folder leads nowhere. A path that begins with a slash
starts at the root of the tree, any other path at the home folder.
-/

namespace Runbook

inductive Node
  /-- A file has no text when its bytes are not UTF-8. -/
  | file (text : Option String) (modified : Instant)
  | folder (entries : List (String × Node))
deriving Inhabited

/-- Names are texts: a file whose name is not UTF-8, and so is that of no snapshot, cannot be
represented. -/
abbrev Folder := Table Node

inductive FileFault
  | missing
  | unusable
deriving DecidableEq

namespace Folder

def maxNameLength : Nat := 255

def isName (name : String) : Bool := name.utf8ByteSize ≤ maxNameLength

def entry (entries : Folder) (name : String) : Except FileFault Node :=
  if !isName name then .error .unusable
  else match entries.find? name with
    | some n => .ok n
    | none => .error .missing

/-- Puts a node at a place and makes the folders above it. -/
def put (node : Node) : Folder → List String → Option Folder
  | _, [] => none
  | entries, name :: rest => do
      if !isName name then none
      match rest, entries.find? name with
      | [], _ => return entries.insert name node
      | rest, none => return entries.insert name (.folder (← put node [] rest))
      | rest, some (.folder inner) => return entries.insert name (.folder (← put node inner rest))
      | _, some (.file _ _) => none

end Folder

namespace Node

/-- Walks from a node that lies below the folders `above`, the closest one first. -/
def walk : List Folder → Node → List String → Except FileFault Node
  | _, n, [] => .ok n
  | _, .file _ _, _ :: _ => .error .unusable
  | above, .folder entries, name :: rest =>
      if name = ".." then
        match above with
        | [] => walk [] (.folder entries) rest
        | up :: above => walk above (.folder up) rest
      else
        match Folder.entry entries name with
        | .error fault => .error fault
        | .ok n => walk (entries :: above) n rest

mutual

def files (path : String) : Node → List String
  | .file _ _ => [path]
  | .folder entries => filesIn path entries

def filesIn (path : String) : List (String × Node) → List String
  | [] => []
  | (name, n) :: rest => files (Path.join path name) n ++ filesIn path rest

end

end Node

/-- What stands at the path of a folder that can be made if need be. -/
inductive Site
  | absent
  | blocked
  | folder (entries : Folder)

structure Workspace where
  root : Folder
  /-- The place of the folder that paths start from. -/
  home : List String

namespace Workspace

def steps (w : Workspace) (path : String) : List String :=
  if Path.isAbsolute path then Path.parts path else w.home ++ Path.parts path

/-- A path must not contain the character that ends a path. -/
def isUsable (path : String) : Bool := !path.toList.contains '\x00'

def find (w : Workspace) (path : String) : Except FileFault Node :=
  if !isUsable path then .error .unusable
  else match Node.walk [] (.folder w.root) (w.steps path) with
    | .ok (.file text modified) =>
        if Path.endsAsFolder path then .error .unusable else .ok (.file text modified)
    | found => found

/-- The text of a file. The empty path leads to no file. -/
def readText (w : Workspace) (path : String) : Except FileFault String :=
  if path.isEmpty then .error .missing
  else match w.find path with
    | .ok (.file (some text) _) => .ok text
    | .ok _ => .error .unusable
    | .error fault => .error fault

/-- Makes the folder at a path and all folders on the way to it. Gives its place, too. -/
def makeFolder (w : Workspace) (path : String) : Option (Workspace × List String) := do
  if !isUsable path then none
  let (root, place) ← (w.steps path).foldlM (fun (root, place) name =>
    if name = ".." then some (root, place.dropLast)
    else
      let place := place ++ [name]
      match Node.walk [] (.folder root) place with
      | .ok (.folder _) => some (root, place)
      | .ok (.file _ _) => none
      | .error _ => (root.put (.folder []) place).map fun root => (root, place))
    (w.root, [])
  return ({ w with root }, place)

def splitLast (path : String) : Option (String × String) := do
  let name ← Path.fileName? path
  let above := "/".intercalate (Path.parts path).dropLast
  return (if Path.isAbsolute path then "/" ++ above else above, name)

def putFile (w : Workspace) (path : String) (text : Option String) (modified : Instant) :
    Option Workspace := do
  let (above, name) ← splitLast path
  let (w, place) ← w.makeFolder above
  match Node.walk [] (.folder w.root) (place ++ [name]) with
  | .ok (.folder _) => none
  | _ => return { w with root := ← w.root.put (.file text modified) (place ++ [name]) }

def site (w : Workspace) (path : String) : Site :=
  match w.find path with
  | .ok (.folder entries) => .folder entries
  | .ok (.file _ _) | .error .unusable => .blocked
  | .error .missing => if (w.makeFolder path).isSome then .absent else .blocked

/-- Changes a folder, which is made if need be. -/
def withSite (w : Workspace) (path : String) : Site → Workspace
  | .absent | .blocked => w
  | .folder entries =>
      match w.makeFolder path with
      | none => w
      | some (w, []) => { w with root := entries }
      | some (w, place) => { w with root := (w.root.put (.folder entries) place).getD w.root }

def files (w : Workspace) : Names :=
  match Node.walk [] (.folder w.root) w.home with
  | .ok n => .ofList (n.files "")
  | .error _ => []

end Workspace

end Runbook
