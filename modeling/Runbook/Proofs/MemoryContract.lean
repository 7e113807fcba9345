import Runbook.Proofs.StoreContract
import Runbook.Store.Memory

/-!
The store in memory keeps to the contract of the stores. Its invariant is that the table of
snapshots is sorted and that each snapshot stands under the id of its own run. Discarding stale
snapshots one by one amounts to filtering the table.
-/

namespace Runbook

namespace MemoryStore

instance : Cancellable MemoryStore where
  isCancelled store := store.cancelled
  setCancelled cancelled store := { store with cancelled }

structure Sound (store : MemoryStore) : Prop where
  sorted : store.snapshots.Sorted
  own_id : ∀ runId s, store.snapshots.find? runId = some s →
    s.runId = runId ∧ RunId.check runId = .ok ()

theorem sound_empty : empty.Sound :=
  ⟨List.Pairwise.nil, fun runId s h => by simp [empty] at h⟩

theorem read_eq_ok_iff {store : MemoryStore} {runId : String} {found : Option Snapshot} :
    store.read runId = .ok found ↔
      RunId.check runId = .ok () ∧ store.snapshots.find? runId = found := by
  unfold read
  rcases RunId.check_ok_or_error runId with h | ⟨reason, h⟩
  · simp [h, bind, Except.bind, pure, Except.pure]
  · simp [h, bind, Except.bind]

theorem read_of_invalid {store : MemoryStore} {runId : String} {e : Error}
    (h : RunId.check runId = .error e) : store.read runId = .error e := by
  simp [read, h, bind, Except.bind]

theorem read_of_valid {store : MemoryStore} {runId : String} (h : RunId.check runId = .ok ()) :
    store.read runId = .ok (store.snapshots.find? runId) := read_eq_ok_iff.mpr ⟨h, rfl⟩

/-- Stores with the same snapshot of a run read alike. -/
theorem read_congr {a b : MemoryStore} {runId : String}
    (h : a.snapshots.find? runId = b.snapshots.find? runId) : a.read runId = b.read runId := by
  simp [read, h]

theorem write_eq_ok {store store' : MemoryStore} {s : Snapshot}
    (h : store.write s = (.ok (), store')) :
    RunId.check s.runId = .ok () ∧
      store' = { store with snapshots := store.snapshots.insert s.runId s } := by
  unfold write at h
  split at h
  · simp at h
  · next hid =>
    split at h
    · simp at h
    · exact ⟨hid, (Prod.mk.inj h).2.symm⟩

theorem write_eq_error {store store' : MemoryStore} {s : Snapshot} {e : Error}
    (h : store.write s = (.error e, store')) : store' = store := by
  unfold write at h
  split at h
  · exact (Prod.mk.inj h).2.symm
  · split at h
    · exact (Prod.mk.inj h).2.symm
    · simp at h

theorem write_cases (store : MemoryStore) (s : Snapshot) :
    (store.write s).2 = store ∨ RunId.check s.runId = .ok () ∧
      (store.write s).2 = { store with snapshots := store.snapshots.insert s.runId s } := by
  cases hw : store.write s with
  | mk answer store' =>
    cases answer with
    | error e => exact Or.inl (write_eq_error hw)
    | ok u => exact Or.inr (write_eq_ok hw)

theorem Sound.insert {store : MemoryStore} (h : store.Sound) {s : Snapshot}
    (hid : RunId.check s.runId = .ok ()) :
    Sound { store with snapshots := store.snapshots.insert s.runId s } := by
  refine ⟨h.sorted.insert _ _, ?_⟩
  intro runId found hfound
  rw [Table.find?_insert] at hfound
  split at hfound
  · next heq =>
    subst heq
    obtain rfl : s = found := Option.some.inj hfound
    exact ⟨rfl, hid⟩
  · exact h.own_id runId found hfound

theorem Sound.filter {store : MemoryStore} (h : store.Sound) (p : String × Snapshot → Bool) :
    Sound { store with snapshots := store.snapshots.filter p } := by
  refine ⟨h.sorted.filter p, ?_⟩
  intro runId s hs
  rw [h.sorted.find?_filter, Option.filter_eq_some_iff] at hs
  exact h.own_id runId s hs.1

theorem Sound.erase {store : MemoryStore} (h : store.Sound) (runId : String) :
    Sound { store with snapshots := store.snapshots.erase runId } := by
  rw [Table.erase_eq_filter]
  exact h.filter _

/-- Discarding names that stand in the table, each once, counts them all. -/
theorem foldl_discard (runIds : List String) (hn : runIds.Nodup) (count : Nat)
    (t : Table Snapshot) (hmem : ∀ runId ∈ runIds, t.contains runId = true) :
    runIds.foldl (fun (count, snapshots) runId => discard count snapshots runId) (count, t) =
      (count + runIds.length, t.filter fun entry => entry.1 ∉ runIds) := by
  induction runIds generalizing count t with
  | nil => simp
  | cons runId rest ih =>
    obtain ⟨hnot, hrest⟩ := List.nodup_cons.mp hn
    have hrun : t.contains runId = true := hmem runId List.mem_cons_self
    have hleft : ∀ other ∈ rest, Table.contains other (t.erase runId) = true := by
      intro other hother
      have hne : other ≠ runId := fun heq => hnot (heq ▸ hother)
      simpa [Table.contains, Table.find?_erase, hne] using
        hmem other (List.mem_cons_of_mem _ hother)
    have hstep : discard count t runId = (count + 1, t.erase runId) := by
      simp only [discard, hrun, if_true]
    have hfilter : List.filter (fun entry => entry.1 ∉ rest) (t.erase runId) =
        t.filter fun entry => entry.1 ∉ runId :: rest := by
      rw [Table.erase_eq_filter, List.filter_filter]
      apply List.filter_congr
      intro entry _
      simp [Bool.and_comm]
    rw [List.foldl_cons]
    change rest.foldl _ (discard count t runId) = _
    rw [hstep, ih hrest (count + 1) (t.erase runId) hleft, hfilter, List.length_cons,
      Nat.add_assoc, Nat.add_comm 1]

def isStale (cutoff : Instant) (s : Snapshot) : Bool := s.lastCheckpoint.before cutoff

/-- Cleaning up keeps just what is not stale, and counts the rest. -/
theorem removeBefore_eq {store : MemoryStore} (h : store.snapshots.Sorted) (cutoff : Instant) :
    store.removeBefore cutoff = ((staleIds store.snapshots cutoff).length,
      { store with snapshots := store.snapshots.filter fun entry => !isStale cutoff entry.2 }) := by
  have hnodup : (staleIds store.snapshots cutoff).Nodup := (h.filter _).keys_nodup
  have hstale : ∀ runId, runId ∈ staleIds store.snapshots cutoff ↔
      ∃ s, store.snapshots.find? runId = some s ∧ isStale cutoff s = true :=
    fun runId => Table.mem_keys_filter h _ runId
  have hmem : ∀ runId ∈ staleIds store.snapshots cutoff,
      store.snapshots.contains runId = true := by
    intro runId hrun
    obtain ⟨s, hs, -⟩ := (hstale runId).mp hrun
    simp [Table.contains, hs]
  have hkeep : store.snapshots.filter (fun entry => entry.1 ∉ staleIds store.snapshots cutoff) =
      store.snapshots.filter fun entry => !isStale cutoff entry.2 := by
    apply List.filter_congr
    intro entry hentry
    have hfind : store.snapshots.find? entry.1 = some entry.2 :=
      h.find?_eq_some_iff.mpr hentry
    have hiff : entry.1 ∈ staleIds store.snapshots cutoff ↔ isStale cutoff entry.2 = true := by
      rw [hstale entry.1, hfind]
      simp
    simp [hiff]
  unfold removeBefore
  rw [foldl_discard _ hnodup 0 _ hmem, Nat.zero_add, hkeep]

theorem find?_removeBefore {store : MemoryStore} (h : store.snapshots.Sorted) (cutoff : Instant)
    (runId : String) :
    (store.removeBefore cutoff).2.snapshots.find? runId =
      (store.snapshots.find? runId).filter fun s => !isStale cutoff s := by
  rw [removeBefore_eq h]
  exact h.find?_filter _ runId

theorem mem_available_iff {store : MemoryStore} (h : store.Sound) {runId : String} :
    runId ∈ store.available ↔ ∃ s, store.read runId = .ok (some s) ∧ s.status = .inProgress := by
  unfold available
  rw [Names.mem_ofList, Table.mem_keys_filter h.sorted]
  constructor
  · rintro ⟨s, hs, hstatus⟩
    exact ⟨s, read_eq_ok_iff.mpr ⟨(h.own_id runId s hs).2, hs⟩, by simpa using hstatus⟩
  · rintro ⟨s, hs, hstatus⟩
    exact ⟨s, (read_eq_ok_iff.mp hs).2, by simpa using hstatus⟩

theorem delete_eq {store : MemoryStore} {runId : String} (hid : RunId.check runId = .ok ()) :
    store.delete runId = (.ok (store.snapshots.contains runId),
      { store with snapshots := store.snapshots.erase runId }) := by
  simp [delete, hid]

theorem delete_of_invalid {store : MemoryStore} {runId : String} {e : Error}
    (h : RunId.check runId = .error e) : store.delete runId = (.error e, store) := by
  simp [delete, h]

/-- The snapshots of the runs whose ids are listed as stale, and no others, are gone. -/
theorem removeBefore_removes {store : MemoryStore} (h : store.Sound) (cutoff : Instant) :
    ∃ (runIds : List String) (store' : MemoryStore),
      store.removeBefore cutoff = (runIds.length, store') ∧ runIds.Nodup ∧
      (∀ runId, runId ∈ runIds ↔
        ∃ s, store.read runId = .ok (some s) ∧ s.lastCheckpoint.before cutoff = true) ∧
      ∀ runId, store'.read runId = if runId ∈ runIds then .ok none else store.read runId := by
  have hmem : ∀ runId, runId ∈ staleIds store.snapshots cutoff ↔
      ∃ s, store.snapshots.find? runId = some s ∧ s.lastCheckpoint.before cutoff = true :=
    fun runId => Table.mem_keys_filter h.sorted _ runId
  refine ⟨staleIds store.snapshots cutoff, (store.removeBefore cutoff).2,
    by rw [removeBefore_eq h.sorted], (h.sorted.filter _).keys_nodup, ?_, ?_⟩
  · intro runId
    rw [hmem runId]
    constructor
    · rintro ⟨s, hs, hold⟩
      exact ⟨s, read_eq_ok_iff.mpr ⟨(h.own_id runId s hs).2, hs⟩, hold⟩
    · rintro ⟨s, hs, hold⟩
      exact ⟨s, (read_eq_ok_iff.mp hs).2, hold⟩
  · intro runId
    have hfind := find?_removeBefore h.sorted cutoff runId
    split
    · next hin =>
      obtain ⟨s, hs, hold⟩ := (hmem runId).mp hin
      rw [hs] at hfind
      refine read_eq_ok_iff.mpr ⟨(h.own_id runId s hs).2, ?_⟩
      simpa [Option.filter, isStale, hold] using hfind
    · next hout =>
      apply read_congr
      rw [hfind]
      cases hs : store.snapshots.find? runId with
      | none => rfl
      | some s =>
        have hfresh : isStale cutoff s = false := by
          by_contra hold
          exact hout ((hmem runId).mpr ⟨s, hs, by simpa [isStale] using hold⟩)
        simp [Option.filter, hfresh]

theorem sound_apply {store : MemoryStore} (h : store.Sound) (now : Instant)
    (change : SnapshotStore.Change) : (change.apply now store).Sound := by
  cases change with
  | write s =>
    change (store.write s).2.Sound
    rcases write_cases store s with hsame | ⟨hid, hwritten⟩
    · rw [hsame]
      exact h
    · rw [hwritten]
      exact h.insert hid
  | delete runId =>
    rcases RunId.check_ok_or_error runId with hid | ⟨reason, hid⟩
    · change (store.delete runId).2.Sound
      rw [delete_eq hid]
      exact h.erase runId
    · change (store.delete runId).2.Sound
      rw [delete_of_invalid hid]
      exact h
  | removeBefore cutoff =>
    change (store.removeBefore cutoff).2.Sound
    rw [removeBefore_eq h.sorted]
    exact h.filter _

theorem cancelled_apply (store : MemoryStore) (now : Instant) (change : SnapshotStore.Change) :
    (change.apply now store).cancelled = store.cancelled := by
  cases change with
  | write s =>
    change (store.write s).2.cancelled = store.cancelled
    rcases write_cases store s with hsame | ⟨hid, hwritten⟩
    · rw [hsame]
    · rw [hwritten]
  | delete runId =>
    rcases RunId.check_ok_or_error runId with hid | ⟨reason, hid⟩
    · change (store.delete runId).2.cancelled = store.cancelled
      rw [delete_eq hid]
    · change (store.delete runId).2.cancelled = store.cancelled
      rw [delete_of_invalid hid]
  | removeBefore cutoff => rfl

instance : LawfulStore MemoryStore where
  Sound := Sound
  Keeps store s := store.read s.runId = .ok (some s)
  Retains _ := True
  find_eq store runId := by
    unfold SnapshotStore.find
    rcases RunId.check_ok_or_error runId with hid | ⟨reason, hid⟩
    · rw [hid]
      rfl
    · rw [hid]
      exact (read_of_invalid hid).symm
  keeps_of_write h := by
    obtain ⟨hid, rfl⟩ := write_eq_ok h
    exact read_eq_ok_iff.mpr ⟨hid, by rw [Table.find?_insert, if_pos rfl]⟩
  read_of_write_ok h runId hne := by
    obtain ⟨-, rfl⟩ := write_eq_ok h
    exact read_congr (by rw [Table.find?_insert, if_neg hne])
  read_of_write_error h runId := by rw [write_eq_error h]
  read_of_keeps_iff h := ⟨fun _ => trivial, fun _ => h⟩
  status_of_keeps {store s} h found hread := ⟨s, Except.ok.inj (hread.symm.trans h), rfl⟩
  delete_error h := delete_of_invalid h
  runId_of_read h runId s hread := (h.own_id runId s (read_eq_ok_iff.mp hread).2).1
  write_answer {store} _ s now := by
    change (store.write s).1 = SnapshotStore.permission store s
    rcases RunId.check_ok_or_error s.runId with hid | ⟨reason, hid⟩
    · cases hc : isCancelled store with
      | true =>
        have hdead : store.cancelled = true := hc
        simp [SnapshotStore.permission_of_cancelled hid hc, write, hid, hdead]
      | false =>
        have hlive : store.cancelled = false := hc
        simp [SnapshotStore.permission_eq_ok_iff.mpr ⟨hid, hc⟩, write, hid, hlive]
    · simp [SnapshotStore.permission_of_invalid hid, write, hid]
  delete_ok {store} h runId hid := by
    refine ⟨_, _, delete_eq hid, ?_, ?_, ?_⟩
    · rw [show SnapshotStore.read store runId = .ok (store.snapshots.find? runId) from
        read_of_valid hid]
      simp [Table.contains, Option.isSome_iff_ne_none]
    · exact read_eq_ok_iff.mpr ⟨hid, by rw [Table.find?_erase, if_pos rfl]⟩
    · intro other hne
      exact read_congr (by rw [Table.find?_erase, if_neg hne])
  removeBefore_ok h cutoff := by
    obtain ⟨runIds, store', heq, -, -, hread⟩ := removeBefore_removes h cutoff
    refine ⟨runIds.length, store', ?_, ?_⟩
    · exact congrArg (fun r => (Except.ok r.1, r.2)) heq
    · intro runId
      by_cases hin : runId ∈ runIds
      · exact Or.inr ((hread runId).trans (if_pos hin))
      · exact Or.inl ((hread runId).trans (if_neg hin))
  available_ok {store} h := ⟨store.available, rfl, fun _ hmem => (mem_available_iff h).mp hmem⟩
  sound_apply h now change := sound_apply h now change
  isCancelled_apply := cancelled_apply
  isCancelled_set _ _ := rfl
  read_set _ _ _ := rfl
  sound_set h _ := ⟨h.sorted, h.own_id⟩

instance : FaithfulStore MemoryStore where
  Faithful := Sound
  sound_of_faithful h := h
  read_of_faithful _ _ hid := ⟨_, read_of_valid hid⟩
  available_of_faithful {store} h :=
    ⟨store.available, rfl, Names.ascending_ofList _, fun _ => mem_available_iff h⟩
  removeBefore_of_faithful h cutoff := by
    obtain ⟨runIds, store', heq, hn, hmem, hread⟩ := removeBefore_removes h cutoff
    exact ⟨runIds, store', congrArg (fun r => (Except.ok r.1, r.2)) heq, hn, hmem, hread⟩
  faithful_apply h now change _ := sound_apply h now change
  faithful_set h _ := ⟨h.sorted, h.own_id⟩

end MemoryStore

end Runbook
