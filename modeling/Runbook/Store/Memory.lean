import Runbook.Store.Basic
import Runbook.Table

/-!
A store that keeps its snapshots in memory. A snapshot counts as changed at its last checkpoint.
-/

namespace Runbook

structure MemoryStore where
  snapshots : Table Snapshot
  cancelled : Bool

namespace MemoryStore

def empty : MemoryStore := ⟨[], false⟩

def read (store : MemoryStore) (runId : String) : Except Error (Option Snapshot) := do
  RunId.check runId
  return store.snapshots.find? runId

def write (store : MemoryStore) (s : Snapshot) : Except Error Unit × MemoryStore :=
  match RunId.check s.runId with
  | .error e => (.error e, store)
  | .ok () =>
      if store.cancelled then (.error .cancelled, store)
      else (.ok (), { store with snapshots := store.snapshots.insert s.runId s })

def delete (store : MemoryStore) (runId : String) : Except Error Bool × MemoryStore :=
  match RunId.check runId with
  | .error e => (.error e, store)
  | .ok () =>
      (.ok (store.snapshots.contains runId),
        { store with snapshots := store.snapshots.erase runId })

def available (store : MemoryStore) : Names :=
  .ofList (Table.keys (store.snapshots.filter fun (_, s) => s.status = .inProgress))

def staleIds (snapshots : Table Snapshot) (cutoff : Instant) : Names :=
  Table.keys (snapshots.filter fun (_, s) => s.lastCheckpoint.before cutoff)

/-- Removes one snapshot, if it is there, and counts it. -/
def discard (count : Nat) (snapshots : Table Snapshot) (runId : String) : Nat × Table Snapshot :=
  (if snapshots.contains runId then count + 1 else count, snapshots.erase runId)

def removeBefore (store : MemoryStore) (cutoff : Instant) : Nat × MemoryStore :=
  let (count, snapshots) := (staleIds store.snapshots cutoff).foldl
    (fun (count, snapshots) runId => discard count snapshots runId) (0, store.snapshots)
  (count, { store with snapshots })

instance : SnapshotStore MemoryStore where
  read := read
  write store s _ := store.write s
  delete := delete
  available store := .ok store.available
  removeBefore store cutoff :=
    let (count, store) := store.removeBefore cutoff
    (.ok count, store)

end MemoryStore

end Runbook
