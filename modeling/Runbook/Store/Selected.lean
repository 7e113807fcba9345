import Runbook.Store.File
import Runbook.Store.Memory

/-!
A store with a choice between files of a workspace and memory. The workspace is at hand in both
cases.
-/

namespace Runbook

inductive Backend
  | file
  | memory
deriving DecidableEq

namespace Backend

def all : List Backend := [file, memory]

def name : Backend → String
  | file => "file"
  | memory => "memory"

def ofName? (s : String) : Option Backend := all.find? (·.name = s)

end Backend

structure SelectedStore where
  backend : Backend
  workspace : Workspace
  dir : String
  snapshots : Table Snapshot
  cancelled : Bool

namespace SelectedStore

def files (store : SelectedStore) : FileStore :=
  ⟨store.dir, store.workspace.site store.dir, store.cancelled⟩

def withFiles (store : SelectedStore) (files : FileStore) : SelectedStore :=
  { store with workspace := store.workspace.withSite store.dir files.site }

def memory (store : SelectedStore) : MemoryStore := ⟨store.snapshots, store.cancelled⟩

def withMemory (store : SelectedStore) (memory : MemoryStore) : SelectedStore :=
  { store with snapshots := memory.snapshots }

def ask {α : Type} (store : SelectedStore)
    (question : {σ : Type} → [SnapshotStore σ] → σ → α) : α :=
  match store.backend with
  | .file => question store.files
  | .memory => question store.memory

def act {α : Type} (store : SelectedStore)
    (action : {σ : Type} → [SnapshotStore σ] → σ → α × σ) : α × SelectedStore :=
  match store.backend with
  | .file => let (a, files) := action store.files; (a, store.withFiles files)
  | .memory => let (a, memory) := action store.memory; (a, store.withMemory memory)

instance : SnapshotStore SelectedStore where
  read store runId := store.ask fun s => SnapshotStore.read s runId
  write store s now := store.act fun t => SnapshotStore.write t s now
  delete store runId := store.act fun s => SnapshotStore.delete s runId
  available store := store.ask fun s => SnapshotStore.available s
  removeBefore store cutoff := store.act fun s => SnapshotStore.removeBefore s cutoff

end SelectedStore

end Runbook
