import Runbook.Proofs.SnapshotNames
import Runbook.Proofs.SortedTables
import Runbook.Store.Basic

/-!
The contract that every store of snapshots keeps to. Some of it holds whatever is found in the
store: a write that fails leaves every snapshot as it was, and one that succeeds concerns the
run of its snapshot only. The rest holds of sound stores, on which only a store's own operations
have worked. In a faithful store, furthermore, every snapshot can be had back, and the listing
of the store shows it as changed at its last checkpoint.
-/

namespace Runbook

/-- Stores whose writing can be called off. -/
class Cancellable (σ : Type) where
  isCancelled : σ → Bool
  setCancelled : Bool → σ → σ

export Cancellable (isCancelled setCancelled)

namespace SnapshotStore

section Permission

variable {σ : Type} [Cancellable σ]

/-- The answer to writing a snapshot where nothing but its run id or the token is in the way. -/
def permission (store : σ) (s : Snapshot) : Except Error Unit := do
  RunId.check s.runId
  if isCancelled store then throw .cancelled

theorem permission_eq_ok_iff {store : σ} {s : Snapshot} :
    permission store s = .ok () ↔ RunId.check s.runId = .ok () ∧ isCancelled store = false := by
  unfold permission
  rcases RunId.check_ok_or_error s.runId with hid | ⟨reason, hid⟩
  · cases hc : isCancelled store with
    | true => simp [hid, bind, Except.bind, throw, throwThe, MonadExceptOf.throw]
    | false => simp [hid, bind, Except.bind, pure, Except.pure]
  · simp [hid, bind, Except.bind]

theorem permission_of_invalid {store : σ} {s : Snapshot} {e : Error}
    (h : RunId.check s.runId = .error e) : permission store s = .error e := by
  simp [permission, h, bind, Except.bind]

theorem permission_of_cancelled {store : σ} {s : Snapshot}
    (hid : RunId.check s.runId = .ok ()) (hc : isCancelled store = true) :
    permission store s = .error .cancelled := by
  simp [permission, hid, hc, bind, Except.bind, throw, throwThe, MonadExceptOf.throw]

end Permission

/-- The ways in which a store is changed. -/
inductive Change
  | write (s : Snapshot)
  | delete (runId : String)
  | removeBefore (cutoff : Instant)

def Change.apply {σ : Type} [SnapshotStore σ] (now : Instant) (store : σ) : Change → σ
  | write s => (SnapshotStore.write store s now).2
  | delete runId => (SnapshotStore.delete store runId).2
  | removeBefore cutoff => (SnapshotStore.removeBefore store cutoff).2

end SnapshotStore

open SnapshotStore (read find previous write delete available removeBefore permission Change)

class LawfulStore (σ : Type) [SnapshotStore σ] [Cancellable σ] where
  /-- Holds of a fresh store, and is kept up by every change. -/
  Sound : σ → Prop
  /-- The snapshot stands in the place of its run, in whatever form the store gives it. -/
  Keeps : σ → Snapshot → Prop
  /-- The snapshot is read back as it was written. -/
  Retains : Snapshot → Prop
  find_eq (store : σ) (runId : String) : find store runId = read store runId
  keeps_of_write {store store' : σ} {s : Snapshot} {now : Instant}
    (h : write store s now = (.ok (), store')) : Keeps store' s
  read_of_write_ok {store store' : σ} {s : Snapshot} {now : Instant}
    (h : write store s now = (.ok (), store')) {runId : String} (hne : runId ≠ s.runId) :
    read store' runId = read store runId
  read_of_write_error {store store' : σ} {s : Snapshot} {now : Instant} {e : Error}
    (h : write store s now = (.error e, store')) (runId : String) :
    read store' runId = read store runId
  read_of_keeps_iff {store : σ} {s : Snapshot} (h : Keeps store s) :
    read store s.runId = .ok (some s) ↔ Retains s
  /-- What is read in the snapshot's place, if anything, is in the same state. -/
  status_of_keeps {store : σ} {s : Snapshot} (h : Keeps store s) {found : Option Snapshot}
    (hread : read store s.runId = .ok found) : ∃ other, found = some other ∧
      other.status = s.status
  delete_error {store : σ} {runId : String} {e : Error} (h : RunId.check runId = .error e) :
    delete store runId = (.error e, store)
  runId_of_read {store : σ} (h : Sound store) {runId : String} {s : Snapshot}
    (hread : read store runId = .ok (some s)) : s.runId = runId
  write_answer {store : σ} (h : Sound store) (s : Snapshot) (now : Instant) :
    (write store s now).1 = permission store s
  delete_ok {store : σ} (h : Sound store) {runId : String} (hid : RunId.check runId = .ok ()) :
    ∃ found store', delete store runId = (.ok found, store') ∧
      (found = true ↔ read store runId ≠ .ok none) ∧ read store' runId = .ok none ∧
      ∀ other, other ≠ runId → read store' other = read store other
  removeBefore_ok {store : σ} (h : Sound store) (cutoff : Instant) :
    ∃ count store', removeBefore store cutoff = (.ok count, store') ∧
      ∀ runId, read store' runId = read store runId ∨ read store' runId = .ok none
  available_ok {store : σ} (h : Sound store) :
    ∃ names, available store = .ok names ∧
      ∀ runId ∈ names, ∃ s, read store runId = .ok (some s) ∧ s.status = .inProgress
  sound_apply {store : σ} (h : Sound store) (now : Instant) (change : Change) :
    Sound (change.apply now store)
  isCancelled_apply (store : σ) (now : Instant) (change : Change) :
    isCancelled (change.apply now store) = isCancelled store
  isCancelled_set (store : σ) (cancelled : Bool) :
    isCancelled (setCancelled cancelled store) = cancelled
  read_set (store : σ) (cancelled : Bool) (runId : String) :
    read (setCancelled cancelled store) runId = read store runId
  sound_set {store : σ} (h : Sound store) (cancelled : Bool) :
    Sound (setCancelled cancelled store)

class FaithfulStore (σ : Type) [SnapshotStore σ] [Cancellable σ] extends LawfulStore σ where
  Faithful : σ → Prop
  sound_of_faithful {store : σ} (h : Faithful store) : Sound store
  read_of_faithful {store : σ} (h : Faithful store) {runId : String}
    (hid : RunId.check runId = .ok ()) : ∃ found, read store runId = .ok found
  available_of_faithful {store : σ} (h : Faithful store) :
    ∃ names, available store = .ok names ∧ Names.Ascending names ∧
      ∀ runId, runId ∈ names ↔ ∃ s, read store runId = .ok (some s) ∧ s.status = .inProgress
  removeBefore_of_faithful {store : σ} (h : Faithful store) (cutoff : Instant) :
    ∃ (runIds : List String) (store' : σ),
      removeBefore store cutoff = (.ok runIds.length, store') ∧ runIds.Nodup ∧
      (∀ runId, runId ∈ runIds ↔
        ∃ s, read store runId = .ok (some s) ∧ s.lastCheckpoint.before cutoff = true) ∧
      ∀ runId, read store' runId = if runId ∈ runIds then .ok none else read store runId
  faithful_apply {store : σ} (h : Faithful store) (now : Instant) (change : Change)
    (hs : ∀ s, change = .write s → Retains s ∧ s.lastCheckpoint = now) :
    Faithful (change.apply now store)
  faithful_set {store : σ} (h : Faithful store) (cancelled : Bool) :
    Faithful (setCancelled cancelled store)

namespace LawfulStore

variable {σ : Type} [SnapshotStore σ] [Cancellable σ] [LawfulStore σ] {store : σ} {runId : String}

theorem read_of_invalid {e : Error} (h : RunId.check runId = .error e) :
    read store runId = .error e := by
  rw [← find_eq, find, h]
  rfl

theorem check_of_read {found : Option Snapshot} (h : read store runId = .ok found) :
    RunId.check runId = .ok () := by
  rcases RunId.check_ok_or_error runId with hid | ⟨reason, hid⟩
  · exact hid
  · rw [read_of_invalid hid] at h
    simp at h

theorem previous_of_read {found : Option Snapshot} (h : read store runId = .ok found) :
    previous store runId = .ok found := by
  rw [previous, find_eq, h]

/-- Writing the snapshot of one run does not concern the others. -/
theorem read_write_of_ne (store : σ) {s : Snapshot} (now : Instant) (hne : runId ≠ s.runId) :
    read (write store s now).2 runId = read store runId := by
  cases hw : write store s now with
  | mk answer store' =>
    cases answer with
    | error e => exact read_of_write_error hw runId
    | ok u => exact read_of_write_ok hw hne

/-- A sound store takes in what has a well-formed id, as long as its token is not cancelled. -/
theorem write_of_live (h : Sound store) {s : Snapshot} (hid : RunId.check s.runId = .ok ())
    (hlive : isCancelled store = false) (now : Instant) :
    ∃ store', write store s now = (.ok (), store') ∧ Keeps store' s := by
  have hanswer : (write store s now).1 = .ok () :=
    (write_answer h s now).trans (SnapshotStore.permission_eq_ok_iff.mpr ⟨hid, hlive⟩)
  cases hw : write store s now with
  | mk answer store' =>
    rw [hw] at hanswer
    obtain rfl : answer = .ok () := hanswer
    exact ⟨store', rfl, keeps_of_write hw⟩

end LawfulStore

end Runbook
