import Runbook.Text.Blank

/-!
Paths as texts, and the names of workflow files. Empty parts and dots between the slashes of a
path do not count.
-/

namespace Runbook.Path

def splitSlash (s : List Char) : List (List Char) :=
  match s with
  | [] => [[]]
  | c :: rest =>
      if c = '/' then [] :: splitSlash rest
      else match splitSlash rest with
        | [] => [[c]]
        | part :: parts => (c :: part) :: parts

def parts (path : String) : List String :=
  ((splitSlash path.toList).filter fun part => !part.isEmpty && part ≠ ['.']).map .ofList

def isAbsolute (path : String) : Bool := path.toList.head? == some '/'

/-- The path that leads on from a folder; a path from the root stays as it is. -/
def join (dir name : String) : String :=
  if dir.isEmpty || isAbsolute name then name
  else if dir.toList.getLast? = some '/' then dir ++ name
  else dir ++ "/" ++ name

def startsAtDot (path : String) : Bool := (splitSlash path.toList).head? == some ['.']

def same (a b : String) : Bool :=
  isAbsolute a == isAbsolute b && startsAtDot a == startsAtDot b && parts a == parts b

def endsAsFolder (path : String) : Bool :=
  match (splitSlash path.toList).getLast? with
  | some last => last.isEmpty || last = ['.'] || last = ['.', '.']
  | none => true

def fileName? (path : String) : Option String :=
  match (parts path).getLast? with
  | some ".." => none
  | name => name

/-- What the name of a workflow file ends in; the first one that fits counts. -/
def workflowSuffixes : List String := [".prompt.md", ".md"]

def stripSuffix? (ending s : String) : Option String :=
  if ending.toList.isSuffixOf s.toList then
    some (.ofList (s.toList.take (s.length - ending.length)))
  else none

def isWorkflow (path : String) : Bool :=
  match fileName? path with
  | none => false
  | some name =>
      workflowSuffixes.any fun ending =>
        ending.length < name.length && ending.toList.isSuffixOf (Text.lowered name).toList

def withoutSuffix (name : String) : String :=
  (workflowSuffixes.findSome? (stripSuffix? · name)).getD name

end Runbook.Path
