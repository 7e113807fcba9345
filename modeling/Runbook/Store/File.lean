import Runbook.Run.Codec
import Runbook.Store.Basic
import Runbook.Workspace

/-!
A store that keeps each snapshot in a file of one folder, named for its run id. A snapshot is
written to a temporary file that then takes the place of the old one, so that a file with a
snapshot's name never holds part of it. A snapshot counts as changed when its file was. Other
files in the folder are left alone.
-/

namespace Runbook

namespace Snapshot

def fileName (runId : String) : String := runId ++ ".json"

def tempName (runId : String) : String := fileName runId ++ ".tmp"

def runIdOf? (name : String) : Option String :=
  (Path.stripSuffix? ".json" name).filter RunId.isValid

def isTempName (name : String) : Bool :=
  ((Path.stripSuffix? ".tmp" name).bind runIdOf?).isSome

/-- The steps of writing a snapshot: the temporary file is made, filled and brought to the disk;
it is checked that nobody has called the writing off; and the file takes its final name. -/
inductive WriteStep
  | create
  | fill
  | sync
  | confirm
  | rename
deriving DecidableEq

namespace WriteStep

def all : List WriteStep := [create, fill, sync, confirm, rename]

def putFile (entries : Folder) (name : String) (node : Node) : Except Error Folder :=
  match entries.find? name with
  | some (.folder _) => .error (.io "a folder is in the way")
  | _ => .ok (entries.insert name node)

def run (runId text : String) (now : Instant) (entries : Folder) : WriteStep → Except Error Folder
  | create => putFile entries (tempName runId) (.file (some "") now)
  | fill => .ok (entries.insert (tempName runId) (.file (some text) now))
  | sync | confirm => .ok entries
  | rename =>
      match entries.find? (tempName runId) with
      | none => .error (.io "the temporary file is gone")
      | some node => putFile (entries.erase (tempName runId)) (fileName runId) node

/-- What a failing step leaves. Late ones take the temporary file away again. -/
def undo (runId : String) (entries : Folder) : WriteStep → Folder
  | create | fill | sync => entries
  | confirm | rename => entries.erase (tempName runId)

/-- Goes through steps until one fails; `fault` makes steps fail that would not fail by
themselves. -/
def runAll (fault : WriteStep → Option Error) (runId text : String) (now : Instant) :
    List WriteStep → Folder → Except Error Unit × Folder
  | [], entries => (.ok (), entries)
  | step :: rest, entries =>
      match (fault step).elim (run runId text now entries step) .error with
      | .error e => (.error e, undo runId entries step)
      | .ok entries => runAll fault runId text now rest entries

end WriteStep

end Snapshot

structure FileStore where
  dir : String
  site : Site
  /-- Nothing is written any more. -/
  cancelled : Bool

namespace FileStore

open Snapshot

def path (store : FileStore) (runId : String) : String := Path.join store.dir (fileName runId)

def readNode (path : String) : Option Node → Except Error (Option Snapshot)
  | none => .ok none
  | some (.file (some text) _) =>
      match Snapshot.read text with
      | some s => .ok (some s)
      | none => .error (.corruptSnapshot path "the text is no snapshot")
  | some (.file none _) => .error (.io "the file is not valid UTF-8")
  | some (.folder _) => .error (.io "the path leads to a folder")

def notAFolder : Error := .io "the path does not lead to a folder"

def read (store : FileStore) (runId : String) : Except Error (Option Snapshot) := do
  RunId.check runId
  match store.site with
  | .absent => return none
  | .blocked => throw notAFolder
  | .folder entries => readNode (store.path runId) (entries.find? (fileName runId))

/-- Writing makes the folder if need be. -/
def entriesToWrite : Site → Except Error Folder
  | .absent => .ok []
  | .blocked => .error notAFolder
  | .folder entries => .ok entries

def stopping (store : FileStore) : WriteStep → Option Error
  | .confirm => if store.cancelled then some .cancelled else none
  | _ => none

def write (store : FileStore) (s : Snapshot) (now : Instant) : Except Error Unit × FileStore :=
  match RunId.check s.runId with
  | .error e => (.error e, store)
  | .ok () =>
      if store.cancelled then (.error .cancelled, store)
      else match entriesToWrite store.site with
        | .error e => (.error e, store)
        | .ok entries =>
            let (result, entries) :=
              WriteStep.runAll store.stopping s.runId s.render now WriteStep.all entries
            (result, { store with site := .folder entries })

def delete (store : FileStore) (runId : String) : Except Error Bool × FileStore :=
  match RunId.check runId with
  | .error e => (.error e, store)
  | .ok () =>
      match store.site with
      | .absent => (.ok false, store)
      | .blocked => (.error notAFolder, store)
      | .folder entries =>
          match entries.find? (fileName runId) with
          | none => (.ok false, store)
          | some (.folder _) => (.error (.io "the path leads to a folder"), store)
          | some (.file _ _) =>
              (.ok true, { store with site := .folder (entries.erase (fileName runId)) })

/-- The folder as it is listed. The empty path can be extended but leads to no folder. -/
def listed (store : FileStore) : Site := if store.dir.isEmpty then .absent else store.site

def resumable? (store : FileStore) (name : String) (node : Node) : Option String := do
  let runId ← runIdOf? name
  match readNode (store.path runId) (some node) with
  | .ok (some s) => if s.status = .inProgress then some runId else none
  | _ => none

def available (store : FileStore) : Except Error Names :=
  match store.listed with
  | .absent => .ok []
  | .blocked => .error notAFolder
  | .folder entries =>
      .ok (.ofList (entries.filterMap fun (name, node) => store.resumable? name node))

/-- Whether a file of this name and content is a snapshot, or a temporary file of one, that was
last changed before an instant. -/
def isStale (cutoff : Instant) (name : String) : Node → Bool
  | .file _ modified =>
      ((runIdOf? name).isSome || isTempName name) && modified.before cutoff
  | .folder _ => false

/-- Looks at one name and removes a stale file; only snapshots are counted. -/
def sweep (cutoff : Instant) (count : Nat) (entries : Folder) (name : String) : Nat × Folder :=
  match entries.find? name with
  | none => (count, entries)
  | some node =>
      if isStale cutoff name node then
        (if (runIdOf? name).isSome then count + 1 else count, entries.erase name)
      else (count, entries)

def removeBefore (store : FileStore) (cutoff : Instant) : Except Error Nat × FileStore :=
  match store.listed with
  | .absent => (.ok 0, store)
  | .blocked => (.error notAFolder, store)
  | .folder entries =>
      let (count, entries) := entries.keys.foldl
        (fun (count, entries) name => sweep cutoff count entries name) (0, entries)
      (.ok count, { store with site := .folder entries })

instance : SnapshotStore FileStore where
  read := read
  write := write
  delete := delete
  available := available
  removeBefore := removeBefore

end FileStore

end Runbook
