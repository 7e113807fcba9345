import Runbook.Proofs.SnapshotFolder

/-!
The store in files keeps to the contract of the stores. It is sound where its folder, once it is
there, holds nothing but snapshots, and faithful where these can all be read and each file was
last changed at its snapshot's last checkpoint.
-/

namespace Runbook

namespace FileStore

open Snapshot
open SnapshotStore (Change)

/-- What holds of all files in the folder still does so after a change that writes only
snapshots of which it holds. -/
theorem becomes_apply {P : Snapshot → Instant → Prop} {store : FileStore} {entries : Folder}
    (hsite : entriesToWrite store.site = .ok entries) (h : Folder.Holds P entries)
    (now : Instant) (change : Change) (hP : ∀ s, change = .write s → P s now) :
    ∃ entries', Becomes store (change.apply now store) entries' ∧ Folder.Holds P entries' := by
  have hsame : Becomes store store entries := ⟨rfl, rfl, hsite⟩
  cases change with
  | write s =>
    change ∃ entries', Becomes store (store.write s now).2 entries' ∧ _
    cases hp : SnapshotStore.permission store s with
    | error e =>
      rw [write_of_refused hp]
      exact ⟨entries, hsame, h⟩
    | ok u =>
      obtain ⟨hid, -⟩ := SnapshotStore.permission_eq_ok_iff.mp hp
      rw [write_of_holds hsite h hp now]
      exact ⟨withSnapshot entries s now, ⟨rfl, rfl, rfl⟩, (h.erase _).insert hid (hP s rfl)⟩
  | delete runId =>
    change ∃ entries', Becomes store (store.delete runId).2 entries' ∧ _
    rcases RunId.check_ok_or_error runId with hid | ⟨reason, hid⟩
    · obtain ⟨store', hdelete, hbecomes⟩ := delete_of_holds hsite h hid
      rw [hdelete]
      exact ⟨entries.erase (fileName runId), hbecomes, h.erase _⟩
    · rw [delete_of_invalid hid]
      exact ⟨entries, hsame, h⟩
  | removeBefore cutoff =>
    change ∃ entries', Becomes store (store.removeBefore cutoff).2 entries' ∧ _
    rcases removeBefore_cases hsite h.sorted cutoff with
      ⟨-, hremoved⟩ | ⟨store', hremoved, hbecomes⟩
    · rw [hremoved]
      exact ⟨entries, hsame, h⟩
    · rw [hremoved]
      exact ⟨entries.filter (isKept cutoff), hbecomes, h.filter _⟩

theorem cancelled_apply (store : FileStore) (now : Instant) (change : Change) :
    (change.apply now store).cancelled = store.cancelled := by
  cases change with
  | write s =>
    change (store.write s now).2.cancelled = store.cancelled
    cases hw : store.write s now with
    | mk answer store' =>
      cases answer with
      | ok u =>
        obtain ⟨-, entries, -, rfl⟩ := write_eq_ok hw
        rfl
      | error e =>
        rcases write_eq_error hw with rfl | ⟨entries, entries', -, hbecomes, -⟩
        · rfl
        · exact hbecomes.cancelled
  | delete runId =>
    change (store.delete runId).2.cancelled = store.cancelled
    unfold delete
    split
    · rfl
    · split
      · rfl
      · rfl
      · split <;> rfl
  | removeBefore cutoff =>
    change (store.removeBefore cutoff).2.cancelled = store.cancelled
    unfold removeBefore
    split <;> rfl

/-- A file that is there was written for the snapshot of its run, and what is read from it
is a snapshot of the same run. -/
theorem written_of_read {P : Snapshot → Instant → Prop} {store : FileStore} {entries : Folder}
    (hsite : entriesToWrite store.site = .ok entries) (h : Folder.Holds P entries)
    {runId : String} {s : Snapshot} (hread : store.read runId = .ok (some s)) :
    s.runId = runId ∧ ∃ written modified, P written modified ∧
      entries.find? (fileName runId) = some (.file (some written.render) modified) ∧
      Snapshot.read written.render = some s := by
  rcases RunId.check_ok_or_error runId with hid | ⟨reason, hid⟩
  · rw [read_of_entries hsite hid, readNode_eq_ok_iff] at hread
    obtain ⟨text, modified, hnode, htext⟩ := hread
    obtain ⟨written, time, hrun, -, hfile, hwritten⟩ := h.of_fileName hnode
    obtain ⟨htextEq, rfl⟩ := Node.file.inj hfile
    obtain rfl := Option.some.inj htextEq
    refine ⟨?_, written, modified, hwritten, hnode, htext⟩
    rw [(Snapshot.same_run_of_read htext).1, hrun]
  · rw [read_of_invalid hid] at hread
    simp at hread

/-- In a folder whose snapshots can all be read, each is read as it was written. -/
theorem read_eq_some_iff {P : Snapshot → Instant → Prop} (hP : ∀ s t, P s t → s.ReadsBack)
    {store : FileStore} {entries : Folder} (hsite : entriesToWrite store.site = .ok entries)
    (h : Folder.Holds P entries) {runId : String} {s : Snapshot} :
    store.read runId = .ok (some s) ↔ ∃ modified, P s modified ∧
      entries.find? (fileName runId) = some (.file (some s.render) modified) := by
  constructor
  · intro hread
    obtain ⟨-, written, modified, hwritten, hnode, htext⟩ := written_of_read hsite h hread
    obtain rfl : written = s := Option.some.inj ((hP written modified hwritten).symm.trans htext)
    exact ⟨modified, hwritten, hnode⟩
  · rintro ⟨modified, hs, hnode⟩
    obtain ⟨_, _, _, hid, -⟩ := h.of_fileName hnode
    rw [read_of_entries hsite hid, readNode_eq_ok_iff]
    exact ⟨s.render, modified, hnode, hP s modified hs⟩

/-- The store holds nothing but snapshots. -/
def Sound (store : FileStore) : Prop := ∃ entries, entriesToWrite store.site = .ok entries ∧
  Folder.Holds (fun _ _ => True) entries

/-- The file of the snapshot's run has the snapshot's text. -/
def Keeps (store : FileStore) (s : Snapshot) : Prop :=
  RunId.check s.runId = .ok () ∧ ∃ entries modified, store.site = .folder entries ∧
    entries.find? (fileName s.runId) = some (.file (some s.render) modified)

theorem Keeps.read_eq {store : FileStore} {s : Snapshot} (h : store.Keeps s) : ∃ modified,
    store.read s.runId = readNode (store.path s.runId) (some (.file (some s.render) modified)) := by
  obtain ⟨hid, entries, modified, hsite, hnode⟩ := h
  have hentries : entriesToWrite store.site = .ok entries := by rw [hsite, entriesToWrite]
  exact ⟨modified, by rw [read_of_entries hentries hid, hnode]⟩

theorem Keeps.read_eq_some_iff {store : FileStore} {s other : Snapshot} (h : store.Keeps s) :
    store.read s.runId = .ok (some other) ↔ Snapshot.read s.render = some other := by
  obtain ⟨modified, hread⟩ := h.read_eq
  rw [hread, readNode_eq_ok_iff]
  constructor
  · rintro ⟨text, time, hfile, htext⟩
    obtain ⟨heqText, -⟩ := Node.file.inj (Option.some.inj hfile)
    obtain rfl := Option.some.inj heqText
    exact htext
  · intro htext
    exact ⟨s.render, modified, rfl, htext⟩

/-- Of a snapshot with nothing but a number that is read as another one, the other one is had. -/
theorem Keeps.read_of_number {store : FileStore} {s : Snapshot} (h : store.Keeps s)
    (htimed : s.Timed) (hversion : isNat32 s.formatVersion) {name : String} {n m : Number}
    (hvars : s.vars = [(name, .number n)]) (hread : Json.rewritten? n = some m) :
    store.read s.runId = .ok (some { s with vars := [(name, .number m)] }) :=
  h.read_eq_some_iff.mpr (Snapshot.read_render_of_number htimed hversion hvars hread)

theorem Keeps.read_ne_none {store : FileStore} {s : Snapshot} (h : store.Keeps s) :
    store.read s.runId ≠ .ok none := by
  obtain ⟨modified, hread⟩ := h.read_eq
  rw [hread]
  intro hnone
  exact absurd (readNode_eq_none_iff.mp hnone) (Option.some_ne_none _)

/-- Deleting a run's snapshot from a folder of snapshots. -/
theorem delete_answer {P : Snapshot → Instant → Prop} {store : FileStore} {entries : Folder}
    (hsite : entriesToWrite store.site = .ok entries) (h : Folder.Holds P entries)
    {runId : String} (hid : RunId.check runId = .ok ()) :
    ∃ found store', store.delete runId = (.ok found, store') ∧
      (found = true ↔ store.read runId ≠ .ok none) ∧ store'.read runId = .ok none ∧
      ∀ other, other ≠ runId → store'.read other = store.read other := by
  obtain ⟨store', hdelete, hbecomes⟩ := delete_of_holds hsite h hid
  refine ⟨entries.contains (fileName runId), store', hdelete, ?_, ?_, ?_⟩
  · rw [read_of_entries hsite hid, ne_eq, readNode_eq_none_iff, Table.contains,
      Option.isSome_iff_ne_none]
  · rw [read_of_entries hbecomes.entries hid, Table.find?_erase, if_pos rfl, readNode]
  · intro other hne
    have hfile : fileName other ≠ fileName runId := fun heq => hne (fileName_injective heq)
    exact read_congr hbecomes.dir hbecomes.entries hsite (by rw [Table.find?_erase, if_neg hfile])

/-- The runs that a folder of snapshots lists are those in progress whose snapshots can be
read. -/
theorem mem_resumable_iff {store : FileStore} {entries : Folder}
    (hsite : entriesToWrite store.site = .ok entries) (h : entries.Sorted) {runId : String} :
    runId ∈ Names.ofList (entries.filterMap fun (name, node) => store.resumable? name node) ↔
      ∃ s, store.read runId = .ok (some s) ∧ s.status = .inProgress := by
  rw [Names.mem_ofList, mem_filterMap_resumable_iff h]
  constructor
  · rintro ⟨hid, s, hs, hstatus⟩
    exact ⟨s, (read_of_entries hsite hid).trans hs, hstatus⟩
  · rintro ⟨s, hs, hstatus⟩
    rcases RunId.check_ok_or_error runId with hid | ⟨reason, hid⟩
    · exact ⟨hid, s, (read_of_entries hsite hid).symm.trans hs, hstatus⟩
    · rw [read_of_invalid hid] at hs
      simp at hs

instance : LawfulStore FileStore where
  Sound := Sound
  Keeps := Keeps
  Retains := Snapshot.ReadsBack
  find_eq store runId := by
    unfold SnapshotStore.find
    rcases RunId.check_ok_or_error runId with hid | ⟨reason, hid⟩
    · rw [hid]
      rfl
    · rw [hid]
      exact (read_of_invalid hid).symm
  keeps_of_write {store store' s now} h := by
    obtain ⟨hp, entries, -, rfl⟩ := write_eq_ok h
    obtain ⟨hid, -⟩ := SnapshotStore.permission_eq_ok_iff.mp hp
    exact ⟨hid, withSnapshot entries s now, now, rfl, find?_withSnapshot_self entries s now⟩
  read_of_write_ok {store store' s now} h runId hne := by
    obtain ⟨-, entries, hsite, rfl⟩ := write_eq_ok h
    have hbecomes : Becomes store { store with site := .folder (withSnapshot entries s now) }
        (withSnapshot entries s now) := ⟨rfl, rfl, rfl⟩
    exact read_congr hbecomes.dir hbecomes.entries hsite
      (find?_withSnapshot_of_ne entries now hne)
  read_of_write_error h runId := by
    rcases write_eq_error h with rfl | ⟨entries, entries', hsite, hbecomes, hfind⟩
    · rfl
    · exact read_congr hbecomes.dir hbecomes.entries hsite
        (hfind _ (tempName_ne_fileName _ _).symm)
  read_of_keeps_iff h := h.read_eq_some_iff
  status_of_keeps {store s} h found hread := by
    cases found with
    | none => exact absurd hread h.read_ne_none
    | some other =>
      exact ⟨other, rfl, (Snapshot.same_run_of_read (h.read_eq_some_iff.mp hread)).2.1⟩
  delete_error h := delete_of_invalid h
  runId_of_read h runId s hread := by
    obtain ⟨entries, hsite, hholds⟩ := h
    exact (written_of_read hsite hholds hread).1
  write_answer {store} h s now := by
    obtain ⟨entries, hsite, hholds⟩ := h
    change (store.write s now).1 = SnapshotStore.permission store s
    cases hp : SnapshotStore.permission store s with
    | error e => rw [write_of_refused hp]
    | ok u => rw [write_of_holds hsite hholds hp now]
  delete_ok h runId hid := by
    obtain ⟨entries, hsite, hholds⟩ := h
    exact delete_answer hsite hholds hid
  removeBefore_ok {store} h cutoff := by
    obtain ⟨entries, hsite, hholds⟩ := h
    rcases removeBefore_cases hsite hholds.sorted cutoff with
      ⟨-, hremoved⟩ | ⟨store', hremoved, hbecomes⟩
    · exact ⟨0, store, hremoved, fun runId => Or.inl rfl⟩
    · exact ⟨_, store', hremoved, read_filter hsite hholds.sorted hbecomes⟩
  available_ok {store} h := by
    obtain ⟨entries, hsite, hholds⟩ := h
    rcases available_cases hsite with ⟨-, havailable⟩ | havailable
    · exact ⟨[], havailable, fun runId hmem => absurd hmem List.not_mem_nil⟩
    · exact ⟨_, havailable, fun runId hmem =>
        (mem_resumable_iff hsite hholds.sorted).mp hmem⟩
  sound_apply h now change := by
    obtain ⟨entries, hsite, hholds⟩ := h
    obtain ⟨entries', hbecomes, hholds'⟩ :=
      becomes_apply hsite hholds now change fun _ _ => trivial
    exact ⟨entries', hbecomes.entries, hholds'⟩
  isCancelled_apply := cancelled_apply
  isCancelled_set _ _ := rfl
  read_set _ _ _ := rfl
  sound_set h _ := h

/-- The store has a path, and holds snapshots that can be had back and whose files were last
changed at their last checkpoints. -/
structure Faithful (store : FileStore) : Prop where
  dir : store.dir ≠ ""
  holds : ∃ entries, entriesToWrite store.site = .ok entries ∧
    Folder.Holds (fun s modified => s.ReadsBack ∧ modified = s.lastCheckpoint) entries

section Dated

variable {store : FileStore} {entries : Folder} (hsite : entriesToWrite store.site = .ok entries)
  (hholds : Folder.Holds (fun s modified => s.ReadsBack ∧ modified = s.lastCheckpoint) entries)

include hsite hholds

theorem read_eq_some_of_dated {runId : String} {s : Snapshot} :
    store.read runId = .ok (some s) ↔
      entries.find? (fileName runId) = some (.file (some s.render) s.lastCheckpoint) ∧
        s.ReadsBack := by
  rw [read_eq_some_iff (fun _ _ hs => hs.1) hsite hholds]
  constructor
  · rintro ⟨modified, ⟨hback, rfl⟩, hnode⟩
    exact ⟨hnode, hback⟩
  · rintro ⟨hnode, hback⟩
    exact ⟨s.lastCheckpoint, ⟨hback, rfl⟩, hnode⟩

/-- A clean-up sweeps the runs whose snapshots were last changed before its cutoff. -/
theorem mem_sweptIds_of_dated (cutoff : Instant) (runId : String) :
    runId ∈ sweptIds cutoff entries ↔
      ∃ s, store.read runId = .ok (some s) ∧ s.lastCheckpoint.before cutoff = true := by
  rw [mem_sweptIds_iff hholds.sorted]
  constructor
  · rintro ⟨hid, node, hnode, hstale⟩
    obtain ⟨s, modified, -, -, rfl, hback, rfl⟩ := hholds.of_fileName hnode
    refine ⟨s, (read_eq_some_of_dated hsite hholds).mpr ⟨hnode, hback⟩, ?_⟩
    exact (Bool.and_eq_true_iff.mp hstale).2
  · rintro ⟨s, hread, hold⟩
    obtain ⟨hnode, -⟩ := (read_eq_some_of_dated hsite hholds).mp hread
    obtain ⟨_, _, _, hid, -⟩ := hholds.of_fileName hnode
    refine ⟨hid, _, hnode, ?_⟩
    simp [isStale, runIdOf?_fileName (RunId.check_eq_ok_iff.mp hid), hold]

theorem read_of_swept {cutoff : Instant} {store' : FileStore} {runId : String}
    (hbecomes : Becomes store store' (entries.filter (isKept cutoff)))
    (hid : RunId.check runId = .ok ()) (hin : runId ∈ sweptIds cutoff entries) :
    store'.read runId = .ok none := by
  obtain ⟨s, hread, hold⟩ := (mem_sweptIds_of_dated hsite hholds cutoff runId).mp hin
  obtain ⟨hnode, -⟩ := (read_eq_some_of_dated hsite hholds).mp hread
  have hstale : isStale cutoff (fileName runId) (.file (some s.render) s.lastCheckpoint) = true := by
    simp [isStale, runIdOf?_fileName (RunId.check_eq_ok_iff.mp hid), hold]
  rw [read_of_entries hbecomes.entries hid, hholds.sorted.find?_filter, hnode]
  simp [Option.filter, isKept, hstale, readNode]

theorem read_of_not_swept {cutoff : Instant} {store' : FileStore} {runId : String}
    (hbecomes : Becomes store store' (entries.filter (isKept cutoff)))
    (hid : RunId.check runId = .ok ()) (hout : runId ∉ sweptIds cutoff entries) :
    store'.read runId = store.read runId := by
  rw [read_of_entries hbecomes.entries hid, hholds.sorted.find?_filter, read_of_entries hsite hid,
    path, path, hbecomes.dir]
  cases hnode : entries.find? (fileName runId) with
  | none => rfl
  | some node =>
    have hfresh : isStale cutoff (fileName runId) node = false := by
      by_contra hstale
      exact hout ((mem_sweptIds_iff hholds.sorted).mpr ⟨hid, node, hnode, by simpa using hstale⟩)
    simp [Option.filter, isKept, hfresh]

end Dated

theorem Faithful.removeBefore_eq {store : FileStore} (h : store.Faithful) (cutoff : Instant) :
    ∃ (runIds : List String) (store' : FileStore),
      store.removeBefore cutoff = (.ok runIds.length, store') ∧ runIds.Nodup ∧
      (∀ runId, runId ∈ runIds ↔
        ∃ s, store.read runId = .ok (some s) ∧ s.lastCheckpoint.before cutoff = true) ∧
      ∀ runId, store'.read runId = if runId ∈ runIds then .ok none else store.read runId := by
  obtain ⟨entries, hsite, hholds⟩ := h.holds
  obtain ⟨store', hremoved, hbecomes⟩ :=
    removeBefore_of_entries h.dir hsite hholds.sorted cutoff
  refine ⟨sweptIds cutoff entries, store', ?_, nodup_sweptIds cutoff hholds.sorted,
    mem_sweptIds_of_dated hsite hholds cutoff, ?_⟩
  · rw [hremoved, length_sweptIds]
  intro runId
  by_cases hin : runId ∈ sweptIds cutoff entries
  · obtain ⟨hid, -⟩ := (mem_sweptIds_iff hholds.sorted).mp hin
    rw [if_pos hin]
    exact read_of_swept hsite hholds hbecomes hid hin
  · rw [if_neg hin]
    rcases RunId.check_ok_or_error runId with hid | ⟨reason, hid⟩
    · exact read_of_not_swept hsite hholds hbecomes hid hin
    · rw [read_of_invalid hid, read_of_invalid hid]

instance : FaithfulStore FileStore where
  Faithful := Faithful
  sound_of_faithful h := by
    obtain ⟨entries, hsite, hholds⟩ := h.holds
    exact ⟨entries, hsite, hholds.mono fun _ _ _ => trivial⟩
  read_of_faithful {store} h runId hid := by
    obtain ⟨entries, hsite, hholds⟩ := h.holds
    cases hnode : entries.find? (fileName runId) with
    | none => exact ⟨none, (read_of_entries hsite hid).trans (readNode_eq_none_iff.mpr hnode)⟩
    | some node =>
      obtain ⟨s, modified, -, -, rfl, hs⟩ := hholds.of_fileName hnode
      exact ⟨some s, (read_eq_some_iff (fun _ _ hs => hs.1) hsite hholds).mpr
        ⟨modified, hs, hnode⟩⟩
  available_of_faithful h := by
    obtain ⟨entries, hsite, hholds⟩ := h.holds
    exact ⟨_, available_of_entries h.dir hsite, Names.ascending_ofList _,
      fun runId => mem_resumable_iff hsite hholds.sorted⟩
  removeBefore_of_faithful h cutoff := h.removeBefore_eq cutoff
  faithful_apply h now change hs := by
    obtain ⟨entries, hsite, hholds⟩ := h.holds
    obtain ⟨entries', hbecomes, hholds'⟩ := becomes_apply hsite hholds now change
      fun s heq => ⟨(hs s heq).1, (hs s heq).2.symm⟩
    exact ⟨hbecomes.dir ▸ h.dir, entries', hbecomes.entries, hholds'⟩
  faithful_set h _ := ⟨h.dir, h.holds⟩

theorem entriesToWrite_of_empty {site : Site}
    (hempty : site = .absent ∨ site = .folder []) : entriesToWrite site = .ok [] := by
  rcases hempty with rfl | rfl
  · rfl
  · rfl

theorem sound_of_empty (dir : String) {site : Site}
    (hempty : site = .absent ∨ site = .folder []) :
    LawfulStore.Sound (⟨dir, site, false⟩ : FileStore) :=
  ⟨[], entriesToWrite_of_empty hempty, .nil⟩

theorem read_of_empty {dir runId : String} {site : Site}
    (hempty : site = .absent ∨ site = .folder []) (hid : RunId.check runId = .ok ()) :
    read ⟨dir, site, false⟩ runId = .ok none := by
  exact @read_of_entries ⟨dir, site, false⟩ [] (entriesToWrite_of_empty hempty) runId hid

end FileStore

end Runbook
