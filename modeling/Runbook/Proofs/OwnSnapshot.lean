import Runbook.Proofs.DamagedSnapshots
import Runbook.Proofs.StoreOperations
import Runbook.Proofs.StoredSnapshots

/-!
Updates of snapshots in files that anybody may have put there. An update looks a snapshot up under
the id that it is given and stores it under the id that stands in the snapshot. Where the two are
the same, nothing but the run's own files is touched and reading the run shows the update. A
snapshot that has been copied or renamed by hand is updated as that of the run whose id it holds,
while the run that was asked for stays as it was.
-/

namespace Runbook.FileStore

open Snapshot
open SnapshotStore (find update markStatus trackCompletion trackFailure permission)
open Snapshot.WriteStep (Blocked)

variable {store : FileStore} {runId : String} {now : Instant}

theorem find_of_nodeAt? (hid : RunId.check runId = .ok ()) {node : Node}
    (h : store.nodeAt? (fileName runId) = some node) :
    find store runId = readNode (store.path runId) (some node) := by
  unfold nodeAt? at h
  split at h
  · next entries hsite => rw [find_of_folder hsite hid, h]
  · cases h

theorem atomic_write (store : FileStore) (s : Snapshot) (now : Instant) :
    ∃ outcome : WriteEnd, outcome.answer? = some (store.write s now).1 ∧
      Atomic store s now outcome (store.write s now).2 := by
  obtain ⟨outcome, hrun, htold⟩ := writeUnder_quiet store s now
  have hatomic := atomic_writeUnder store s .quiet now
  rw [hrun] at hatomic
  exact ⟨outcome, htold, hatomic⟩

/-- What it comes to in the files that the snapshot `s`, found for a run, gives way to another. -/
structure Rewritten {α : Type} (store : FileStore) (runId : String) (s after : Snapshot)
    (now : Instant) (result : Except Error α × FileStore) : Prop where
  others : ∀ name, name ≠ fileName s.runId → name ≠ tempName s.runId →
    result.2.nodeAt? name = store.nodeAt? name
  refused : ∀ e, result.1 = .error e →
    result.2.nodeAt? (fileName s.runId) = store.nodeAt? (fileName s.runId)
  written : ∀ a, result.1 = .ok a →
    result.2.nodeAt? (fileName s.runId) = some (.file (some after.render) now) ∧
      result.2.nodeAt? (tempName s.runId) = none
  shown : s.runId = runId → ∀ a, result.1 = .ok a →
    ∃ vars, rereadVars s.vars = some vars ∧
      find result.2 runId = .ok (some { after with vars })
  foreign : s.runId ≠ runId → find result.2 runId = find store runId

/-- What an update of a run comes to in the files. -/
structure Updated {α : Type} (store : FileStore) (runId : String) (change : Snapshot → Snapshot)
    (now : Instant) (result : Except Error α × FileStore) : Prop where
  idle : (∀ s, find store runId ≠ .ok (some s)) → result.2 = store
  found : ∀ s, find store runId = .ok (some s) → Rewritten store runId s (change s) now result

theorem Rewritten.map {α β : Type} {s after : Snapshot} {result : Except Error α × FileStore}
    (h : Rewritten store runId s after now result) (f : α → β) :
    Rewritten store runId s after now (result.map (.map f) id) := by
  obtain ⟨answer, store'⟩ := result
  have hok : ∀ y, answer.map f = .ok y → ∃ x, answer = .ok x := by
    intro y hy
    cases answer with
    | error e => cases hy
    | ok x => exact ⟨x, rfl⟩
  refine ⟨h.others, ?_, ?_, ?_, h.foreign⟩
  · intro e he
    cases answer with
    | error other => exact h.refused other rfl
    | ok x => cases he
  · intro y hy
    exact (hok y hy).elim h.written
  · intro hown y hy
    exact (hok y hy).elim (h.shown hown)

theorem Updated.map {α β : Type} {change : Snapshot → Snapshot}
    {result : Except Error α × FileStore} (h : Updated store runId change now result) (f : α → β) :
    Updated store runId change now (result.1.map f, result.2) :=
  ⟨h.idle, fun s hs => (h.found s hs).map f⟩

/-- A snapshot that is found has been read from a text, so that its own text is read as well. -/
theorem legible_of_find (hid : RunId.check runId = .ok ()) {s : Snapshot}
    (h : find store runId = .ok (some s)) : s.Legible := by
  rw [LawfulStore.find_eq] at h
  have hread : store.read runId = .ok (some s) := h
  cases hsite : store.site with
  | absent =>
    rw [read_of_entries (by rw [hsite, entriesToWrite]) hid] at hread
    cases hread
  | blocked =>
    simp [read, hid, hsite, bind, Except.bind, throw, throwThe, MonadExceptOf.throw] at hread
  | folder entries =>
    rw [read_of_entries (by rw [hsite, entriesToWrite]) hid] at hread
    obtain ⟨text, modified, -, htext⟩ := readNode_eq_ok_iff.mp hread
    exact legible_of_read htext

/-- A snapshot that is found gives way to the changed one, under the id that stands in it. -/
theorem rewritten_update (hid : RunId.check runId = .ok ()) {s after : Snapshot}
    (hfind : find store runId = .ok (some s)) {change : Snapshot → Snapshot}
    (hchange : change s = after) (hrun : after.runId = s.runId) (hvars : after.vars = s.vars)
    (hlegible : after.Legible) :
    Rewritten store runId s after now (update store runId change now) := by
  obtain ⟨outcome, htold, hatomic⟩ := atomic_write store after now
  rw [SnapshotStore.update_of_some hfind, hchange]
  change outcome.answer? = some (SnapshotStore.write store after now).1 at htold
  change Atomic store after now outcome (SnapshotStore.write store after now).2 at hatomic
  have hforeign : runId ≠ after.runId →
      SnapshotStore.read (SnapshotStore.write store after now).2 runId =
        SnapshotStore.read store runId :=
    LawfulStore.read_write_of_ne store now
  generalize SnapshotStore.write store after now = result at htold hatomic hforeign ⊢
  obtain ⟨answer, store'⟩ := result
  suffices h : Rewritten store runId s after now (answer, store') from h.map _
  have hwritten : ∀ a, answer = .ok a →
      store'.nodeAt? (fileName after.runId) = some (.file (some after.render) now) ∧
        store'.nodeAt? (tempName after.runId) = none := by
    rintro a rfl
    exact hatomic.done htold
  rw [hrun] at hwritten hforeign
  refine ⟨?_, ?_, hwritten, ?_, ?_⟩
  · intro name hfile htemp
    exact hatomic.others name (hrun ▸ hfile) (hrun ▸ htemp)
  · rintro e rfl
    rw [← hrun]
    exact hatomic.error e htold
  · rintro rfl a ha
    obtain ⟨vars, hreread, hread⟩ := hlegible.read_render
    refine ⟨vars, hvars ▸ hreread, ?_⟩
    rw [find_of_nodeAt? hid (hwritten a ha).1, readNode, hread]
  · intro hne
    rw [LawfulStore.find_eq, LawfulStore.find_eq]
    exact hforeign hne.symm

theorem updated_update (hid : RunId.check runId = .ok ()) {change : Snapshot → Snapshot}
    (hrun : ∀ s, (change s).runId = s.runId) (hvars : ∀ s, (change s).vars = s.vars)
    (hlegible : ∀ s, s.Legible → (change s).Legible) :
    Updated store runId change now (update store runId change now) := by
  refine ⟨?_, ?_⟩
  · intro hnone
    cases hfind : find store runId with
    | error e => rw [SnapshotStore.update_of_error hfind]
    | ok found =>
      cases found with
      | none => rw [SnapshotStore.update_of_none hfind]
      | some s => exact absurd hfind (hnone s)
  · intro s hfind
    exact rewritten_update hid hfind rfl (hrun s) (hvars s)
      (hlegible s (legible_of_find hid hfind))

/-- Setting the status of a run and adding a step to it are updates of the run's snapshot. -/
theorem updates_by_stored_id (hid : RunId.check runId = .ok ()) (hnow : now.OnClock) :
    (∀ status, Updated store runId (·.setStatus status now) now
      (markStatus store runId status now)) ∧
    (∀ step, step.OnClock → Updated store runId (·.completeStep step now) now
      (trackCompletion store runId step now)) ∧
    ∀ name error, Updated store runId (·.failStep name error now) now
      (trackFailure store runId name error now) := by
  refine ⟨?_, ?_, ?_⟩
  · intro status
    exact updated_update hid (fun _ => rfl) (fun _ => rfl) fun s hs => hs.setStatus status hnow
  · intro step hstep
    have hupdate : Updated store runId (·.completeStep step now) now
        (update store runId (·.completeStep step now) now) :=
      updated_update hid (fun _ => rfl) (fun _ => rfl) fun s hs => hs.addStep hstep _ hnow
    exact hupdate.map _
  · intro name error
    have hstep : (Step.failed name error now).OnClock := by
      refine ⟨hnow, ?_⟩
      intro t ht
      obtain rfl := Option.some.inj ht
      exact hnow
    have hupdate : Updated store runId (·.failStep name error now) now
        (update store runId (·.failStep name error now) now) :=
      updated_update hid (fun _ => rfl) (fun _ => rfl) fun s hs => hs.addStep hstep _ hnow
    exact hupdate.map _

/-- A store with a fresh snapshot of the run `owner` in the file of the run `r`. -/
def placed (owner : String) : FileStore :=
  ⟨"state", .folder [(fileName "r",
    .file (some (capture (.bare owner) [] none ⟨0, 0⟩).render) ⟨0, 0⟩)], false⟩

theorem find_placed (owner : String) :
    find (placed owner) "r" = .ok (some (capture (.bare owner) [] none ⟨0, 0⟩)) := by
  have hread : Snapshot.read (capture (.bare owner) [] none ⟨0, 0⟩).render =
      some (capture (.bare owner) [] none ⟨0, 0⟩) := readsBack_of_bare owner .inProgress
  rw [find_of_folder rfl rfl, placed, Table.find?, if_pos rfl, readNode, hread]

theorem markStatus_placed (owner : String) (hid : RunId.check owner = .ok ()) :
    ∃ store', markStatus (placed owner) "r" .completed ⟨5, 0⟩ = (.ok true, store') := by
  have hfree : ∀ name, ¬ Blocked [(fileName "r",
      .file (some (capture (.bare owner) [] none ⟨0, 0⟩).render) ⟨0, 0⟩)] name := by
    rintro name ⟨inner, hinner⟩
    simp only [Table.find?] at hinner
    split at hinner
    · cases hinner
    · cases hinner
  have hp : permission (placed owner)
      ((capture (.bare owner) [] none ⟨0, 0⟩).setStatus .completed ⟨5, 0⟩) = .ok () :=
    SnapshotStore.permission_eq_ok_iff.mpr ⟨hid, rfl⟩
  have hwrite := @write_of_unblocked (placed owner) _ rfl _ (hfree _) (hfree _) hp ⟨5, 0⟩
  rw [markStatus, SnapshotStore.update_of_some (find_placed owner)]
  exact ⟨_, congrArg (Prod.map (Except.map fun _ => true) id) hwrite⟩

theorem updates_by_stored_id_of_own :
    RunId.check "r" = .ok () ∧ (⟨5, 0⟩ : Instant).OnClock ∧
    ∃ store', markStatus (placed "r") "r" .completed ⟨5, 0⟩ = (.ok true, store') ∧
      ∃ s, find store' "r" = .ok (some s) ∧ s.status = .completed := by
  have hclock : (⟨5, 0⟩ : Instant).OnClock := ⟨by decide +kernel, by decide, by decide⟩
  obtain ⟨store', hmark⟩ := markStatus_placed "r" rfl
  have hupdated : Updated (placed "r") "r" (·.setStatus .completed ⟨5, 0⟩) ⟨5, 0⟩
      (markStatus (placed "r") "r" .completed ⟨5, 0⟩) :=
    (updates_by_stored_id rfl hclock).1 .completed
  rw [hmark] at hupdated
  obtain ⟨vars, -, hshown⟩ := (hupdated.found _ (find_placed "r")).shown rfl true rfl
  exact ⟨rfl, hclock, store', hmark, _, hshown, rfl⟩

/-- Marking a run whose file holds the snapshot of another one says that it is done. It makes a
file for the other run, and the run that was marked is still in progress. -/
theorem foreign_snapshot_marked :
    RunId.check "r" = .ok () ∧
    ∃ store', markStatus (placed "q") "r" .completed ⟨5, 0⟩ = (.ok true, store') ∧
      (placed "q").nodeAt? "q.json" = none ∧ store'.nodeAt? "q.json" ≠ none ∧
      ∃ s, find store' "r" = .ok (some s) ∧ s.status = .inProgress := by
  obtain ⟨store', hmark⟩ := markStatus_placed "q" rfl
  have hclock : (⟨5, 0⟩ : Instant).OnClock := ⟨by decide +kernel, by decide, by decide⟩
  have hrewritten : Rewritten (placed "q") "r" (capture (.bare "q") [] none ⟨0, 0⟩) _ ⟨5, 0⟩
      (markStatus (placed "q") "r" .completed ⟨5, 0⟩) :=
    rewritten_update rfl (find_placed "q") rfl rfl rfl
      ((legible_of_find rfl (find_placed "q")).setStatus .completed hclock)
  rw [hmark] at hrewritten
  refine ⟨rfl, store', hmark, rfl, ?_, _, (hrewritten.foreign (by decide)).trans (find_placed "q"),
    rfl⟩
  have hwritten : store'.nodeAt? "q.json" = _ := (hrewritten.written true rfl).1
  rw [hwritten]
  simp

end Runbook.FileStore
