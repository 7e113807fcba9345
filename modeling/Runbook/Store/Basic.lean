import Runbook.Run.Compatibility
import Runbook.Run.Id
import Runbook.Time.Duration

/-!
Stores of snapshots, at most one for each run id. A store brings five operations of its own;
checkpoints, the tracking of steps, the resuming of runs and the removal of old snapshots are
made of these and are the same for every store. An operation that fails is answered with its
error and the store that it leaves.
-/

namespace Runbook

class SnapshotStore (σ : Type) where
  read : σ → String → Except Error (Option Snapshot)
  /-- Puts a snapshot in place of the one with the same run id. -/
  write : σ → Snapshot → Instant → Except Error Unit × σ
  /-- Says whether there was a snapshot. -/
  delete : σ → String → Except Error Bool × σ
  /-- The ids of the runs in progress, in ascending order. -/
  available : σ → Except Error Names
  /-- Removes the snapshots last changed before an instant, and counts them. -/
  removeBefore : σ → Instant → Except Error Nat × σ

namespace SnapshotStore

variable {σ : Type} [SnapshotStore σ]

def find (store : σ) (runId : String) : Except Error (Option Snapshot) := do
  RunId.check runId
  read store runId

/-- The snapshot that a new one takes the place of; an unreadable one does not count. -/
def previous (store : σ) (runId : String) : Except Error (Option Snapshot) :=
  match find store runId with
  | .error (.corruptSnapshot _ _) => .ok none
  | found => found

def save (store : σ) (ctx : RunContext) (conversation : Conversation) (now : Instant) :
    Except Error Unit × σ :=
  match previous store ctx.runId with
  | .error e => (.error e, store)
  | .ok previous => write store (.capture ctx conversation previous now) now

def load (store : σ) (runId : String) : Except Error (Option (RunContext × Conversation)) := do
  return (← find store runId).map Snapshot.restore

def update (store : σ) (runId : String) (change : Snapshot → Snapshot) (now : Instant) :
    Except Error Bool × σ :=
  match find store runId with
  | .error e => (.error e, store)
  | .ok none => (.ok false, store)
  | .ok (some s) =>
      match write store (change s) now with
      | (.error e, store) => (.error e, store)
      | (.ok (), store) => (.ok true, store)

/-- Adds a finished step to a run; without a snapshot there is nothing to do. -/
def trackCompletion (store : σ) (runId : String) (step : Step) (now : Instant) :
    Except Error Unit × σ :=
  let (result, store) := update store runId (·.completeStep step now) now
  (result.map fun _ => (), store)

def trackFailure (store : σ) (runId name error : String) (now : Instant) :
    Except Error Unit × σ :=
  let (result, store) := update store runId (·.failStep name error now) now
  (result.map fun _ => (), store)

def markStatus (store : σ) (runId : String) (status : RunStatus) (now : Instant) :
    Except Error Bool × σ :=
  update store runId (·.setStatus status now) now

def isCompatible (store : σ) (runId text : String) : Except Error Bool := do
  return (Compatibility.check (← find store runId) text).isCompatible

/-- The state of a run that is to go on with a document, by force even with a changed one. -/
def prepareResume (store : σ) (runId text : String) (force : Bool) :
    Except Error (RunContext × Conversation) := do
  match ← find store runId with
  | none => throw (.snapshotNotFound runId)
  | some s =>
      match Compatibility.check (some s) text with
      | .differs stored current =>
          if force then return s.restore
          else throw (.incompatibleSnapshot runId stored current)
      | _ => return s.restore

/-- The longest age whose milliseconds are a signed 64-bit number. -/
def maxAge : Duration := ⟨9223372036854775, 807000000, by decide⟩

/-- The instant a length of time before now, or the earliest one there is. -/
def cutoff (now : Instant) (age : Duration) : Instant :=
  let t := now.minus age
  if t.inRange then t else .earliest

def removeOlder (store : σ) (age : Duration) (now : Instant) : Except Error Nat × σ :=
  if age.longerThan maxAge then
    (.error (.config ("retention " ++ age.render ++ " is out of range: " ++
      "Source duration value is out of range for the target type")), store)
  else removeBefore store (cutoff now age)

def cleanup (store : σ) (seconds : Nat) (now : Instant) : Except Error Nat × σ :=
  removeOlder store (.ofSeconds seconds) now

end SnapshotStore

end Runbook
