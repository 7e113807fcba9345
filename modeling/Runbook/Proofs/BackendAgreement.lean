import Runbook.Proofs.FileContract
import Runbook.Proofs.MemoryContract
import Runbook.Proofs.StoreSimulation

/-!
Two faithful stores that read alike cannot be told apart. Every call is answered alike by both,
and they read alike again after it. Hence a store in files and a store in memory that both start
with nothing go on alike, whatever they are asked to do.
-/

namespace Runbook

open SnapshotStore (read write find previous update delete available removeBefore permission Change)

/-- The stores are faithful and agree on their tokens and on what is read of any run. -/
structure Agree {σ τ : Type} [SnapshotStore σ] [Cancellable σ] [FaithfulStore σ]
    [SnapshotStore τ] [Cancellable τ] [FaithfulStore τ] (a : σ) (b : τ) : Prop where
  left : FaithfulStore.Faithful a
  right : FaithfulStore.Faithful b
  token : isCancelled a = isCancelled b
  reads : ∀ runId, read a runId = read b runId

namespace Agree

variable {σ τ : Type} [SnapshotStore σ] [Cancellable σ] [FaithfulStore σ]
  [SnapshotStore τ] [Cancellable τ] [FaithfulStore τ] {a : σ} {b : τ}

/-- The snapshot can be had back from either kind of store. -/
def Retained (σ τ : Type) [SnapshotStore σ] [Cancellable σ] [FaithfulStore σ]
    [SnapshotStore τ] [Cancellable τ] [FaithfulStore τ] (s : Snapshot) : Prop :=
  LawfulStore.Retains σ s ∧ LawfulStore.Retains τ s

theorem find_eq (h : Agree a b) (runId : String) : find a runId = find b runId := by
  rw [LawfulStore.find_eq, LawfulStore.find_eq, h.reads]

theorem permission_eq (h : Agree a b) (s : Snapshot) : permission a s = permission b s := by
  simp only [permission, h.token]

theorem setCancelled (h : Agree a b) (cancelled : Bool) :
    Agree (setCancelled cancelled a) (setCancelled cancelled b) := by
  refine ⟨FaithfulStore.faithful_set h.left cancelled,
    FaithfulStore.faithful_set h.right cancelled, ?_, ?_⟩
  · rw [LawfulStore.isCancelled_set, LawfulStore.isCancelled_set]
  · intro runId
    rw [LawfulStore.read_set, LawfulStore.read_set, h.reads]

/-- Stores that a change leaves alike agree after it. -/
theorem apply (h : Agree a b) (now : Instant) (change : Change)
    (hs : ∀ s, change = .write s → Retained σ τ s ∧ s.lastCheckpoint = now)
    (hreads : ∀ runId, read (change.apply now a) runId = read (change.apply now b) runId) :
    Agree (change.apply now a) (change.apply now b) := by
  refine ⟨FaithfulStore.faithful_apply h.left now change ?_,
    FaithfulStore.faithful_apply h.right now change ?_, ?_, hreads⟩
  · intro s heq
    exact ⟨(hs s heq).1.1, (hs s heq).2⟩
  · intro s heq
    exact ⟨(hs s heq).1.2, (hs s heq).2⟩
  · rw [LawfulStore.isCancelled_apply, LawfulStore.isCancelled_apply, h.token]

theorem write (h : Agree a b) {s : Snapshot} (hs : Retained σ τ s) (now : Instant)
    (hnow : s.lastCheckpoint = now) :
    (write a s now).1 = (write b s now).1 ∧ Agree (write a s now).2 (write b s now).2 := by
  have hanswer : (SnapshotStore.write a s now).1 = (SnapshotStore.write b s now).1 := by
    rw [LawfulStore.write_answer (FaithfulStore.sound_of_faithful h.left),
      LawfulStore.write_answer (FaithfulStore.sound_of_faithful h.right), h.permission_eq]
  refine ⟨hanswer, h.apply now (.write s) ?_ ?_⟩
  · intro other heq
    obtain rfl := Change.write.inj heq
    exact ⟨hs, hnow⟩
  intro runId
  change read (SnapshotStore.write a s now).2 runId = read (SnapshotStore.write b s now).2 runId
  cases ha : SnapshotStore.write a s now with
  | mk answer a' =>
    cases hb : SnapshotStore.write b s now with
    | mk other b' =>
      rw [ha, hb] at hanswer
      obtain rfl : answer = other := hanswer
      cases answer with
      | error e =>
        rw [LawfulStore.read_of_write_error ha, LawfulStore.read_of_write_error hb, h.reads]
      | ok u =>
        by_cases hid : runId = s.runId
        · subst hid
          rw [(LawfulStore.read_of_keeps_iff (LawfulStore.keeps_of_write ha)).mpr hs.1,
            (LawfulStore.read_of_keeps_iff (LawfulStore.keeps_of_write hb)).mpr hs.2]
        · rw [LawfulStore.read_of_write_ok ha hid, LawfulStore.read_of_write_ok hb hid, h.reads]

theorem delete (h : Agree a b) (runId : String) (now : Instant) :
    (delete a runId).1 = (delete b runId).1 ∧ Agree (delete a runId).2 (delete b runId).2 := by
  rcases RunId.check_ok_or_error runId with hid | ⟨reason, hid⟩
  · obtain ⟨found, a', ha, hfound, hgone, hother⟩ :=
      LawfulStore.delete_ok (FaithfulStore.sound_of_faithful h.left) hid
    obtain ⟨present, b', hb, hpresent, hgone', hother'⟩ :=
      LawfulStore.delete_ok (FaithfulStore.sound_of_faithful h.right) hid
    have hsame : found = present := by
      rw [Bool.eq_iff_iff, hfound, hpresent, h.reads]
    refine ⟨by rw [ha, hb, hsame], h.apply now (.delete runId) (fun _ heq => by cases heq) ?_⟩
    intro other
    change read (SnapshotStore.delete a runId).2 other = read (SnapshotStore.delete b runId).2 other
    rw [ha, hb]
    by_cases heq : other = runId
    · rw [heq, hgone, hgone']
    · rw [hother other heq, hother' other heq, h.reads]
  · rw [LawfulStore.delete_error hid, LawfulStore.delete_error hid]
    exact ⟨rfl, h⟩

theorem available_eq (h : Agree a b) : available a = available b := by
  obtain ⟨names, ha, hascending, hmem⟩ := FaithfulStore.available_of_faithful h.left
  obtain ⟨others, hb, hascending', hmem'⟩ := FaithfulStore.available_of_faithful h.right
  have hsame : names = others := by
    apply hascending.ext hascending'
    intro runId
    rw [hmem, hmem', h.reads]
  rw [ha, hb, hsame]

theorem removeBefore (h : Agree a b) (cutoff now : Instant) :
    (removeBefore a cutoff).1 = (removeBefore b cutoff).1 ∧
      Agree (removeBefore a cutoff).2 (removeBefore b cutoff).2 := by
  obtain ⟨gone, a', ha, hnodup, hmem, hreads⟩ :=
    FaithfulStore.removeBefore_of_faithful h.left cutoff
  obtain ⟨gone', b', hb, hnodup', hmem', hreads'⟩ :=
    FaithfulStore.removeBefore_of_faithful h.right cutoff
  have hsame : ∀ runId, runId ∈ gone ↔ runId ∈ gone' := by
    intro runId
    rw [hmem, hmem', h.reads]
  have hlength : gone.length = gone'.length :=
    ((List.perm_ext_iff_of_nodup hnodup hnodup').mpr hsame).length_eq
  refine ⟨by rw [ha, hb, hlength],
    h.apply now (.removeBefore cutoff) (fun _ heq => by cases heq) ?_⟩
  intro runId
  change read (SnapshotStore.removeBefore a cutoff).2 runId =
    read (SnapshotStore.removeBefore b cutoff).2 runId
  rw [ha, hb, hreads, hreads', h.reads]
  simp only [hsame]

theorem simulation : Simulation (@Agree σ τ _ _ _ _ _ _) (Retained σ τ) where
  find_eq h runId := h.find_eq runId
  write h _ hs now hnow := h.write hs now hnow
  delete h runId := h.delete runId ⟨0, 0⟩
  available_eq h := h.available_eq
  removeBefore h cutoff := h.removeBefore cutoff ⟨0, 0⟩
  setCancelled h cancelled := h.setCancelled cancelled

end Agree

/-- The folder that paths start from is there, so that the empty path does not lead to nothing. -/
theorem Workspace.ne_empty_of_absent {w : Workspace} {dir : String} {home : Folder}
    (hhome : w.find "" = .ok (.folder home)) (habsent : w.site dir = .absent) : dir ≠ "" := by
  rintro rfl
  simp [site, hhome] at habsent

theorem FileStore.faithful_of_absent {dir : String} (hdir : dir ≠ "") :
    FaithfulStore.Faithful (⟨dir, .absent, false⟩ : FileStore) :=
  ⟨hdir, [], rfl, .nil⟩

theorem FileStore.read_of_absent (dir runId : String) :
    FileStore.read ⟨dir, .absent, false⟩ runId = MemoryStore.read .empty runId := by
  rcases RunId.check_ok_or_error runId with hid | ⟨reason, hid⟩
  · rw [FileStore.read_of_empty (Or.inl rfl) hid, MemoryStore.read_of_valid hid]
    rfl
  · rw [FileStore.read_of_invalid hid, MemoryStore.read_of_invalid hid]

/-- A store in memory and one in a folder that is still missing answer all calls alike and go on
holding the same snapshots, as long as the texts of these can be read back. -/
theorem backends_agree (w : Workspace) (dir : String) {home : Folder}
    (hhome : w.find "" = .ok (.folder home)) (habsent : w.site dir = .absent) (calls : List Call)
    (hback : ∀ s ∈ Call.writes MemoryStore.empty calls, s.ReadsBack) :
    List.Forall₂
      (fun memory file => memory.1 = file.1 ∧ ∀ runId, read memory.2 runId = read file.2 runId)
      (Call.trace MemoryStore.empty calls)
      (Call.trace (⟨dir, w.site dir, false⟩ : FileStore) calls) := by
  have hagree : Agree MemoryStore.empty (⟨dir, w.site dir, false⟩ : FileStore) := by
    rw [habsent]
    exact ⟨MemoryStore.sound_empty,
      FileStore.faithful_of_absent (Workspace.ne_empty_of_absent hhome habsent), rfl,
      fun runId => (FileStore.read_of_absent dir runId).symm⟩
  have hretained : ∀ s ∈ Call.writes MemoryStore.empty calls,
      Agree.Retained MemoryStore FileStore s := fun s hs => ⟨trivial, hback s hs⟩
  refine (Agree.simulation.trace hagree calls hretained).imp ?_
  rintro memory file ⟨hanswer, hafter⟩
  exact ⟨hanswer, hafter.reads⟩

theorem backends_agree_on_failed_run :
    let calls : List Call :=
      [⟨.save (.bare "r") [], ⟨0, 0⟩, false⟩, ⟨.mark "r" .failed, ⟨0, 0⟩, true⟩,
        ⟨.list, ⟨0, 0⟩, false⟩]
    List.Forall₂
      (fun memory file => memory.1 = file.1 ∧ ∀ runId, read memory.2 runId = read file.2 runId)
      (Call.trace MemoryStore.empty calls)
      (Call.trace (⟨"state", .absent, false⟩ : FileStore) calls) := by
  intro calls
  have hhome : Workspace.find ⟨[], []⟩ "" = .ok (.folder []) := rfl
  have habsent : Workspace.site ⟨[], []⟩ "state" = .absent := by rfl
  have hback : ∀ s ∈ Call.writes MemoryStore.empty calls, s.ReadsBack := by
    intro s hs
    have hwrites : Call.writes MemoryStore.empty calls =
        [.capture (.bare "r") [] none ⟨0, 0⟩,
          .setStatus (.capture (.bare "r") [] none ⟨0, 0⟩) .failed ⟨0, 0⟩] := by rfl
    rw [hwrites] at hs
    rcases List.mem_cons.mp hs with rfl | hs
    · exact Snapshot.readsBack_of_bare "r" .inProgress
    · rw [List.mem_singleton.mp hs]
      exact Snapshot.readsBack_of_bare "r" .failed
  exact habsent ▸ backends_agree ⟨[], []⟩ "state" hhome habsent calls hback

end Runbook
