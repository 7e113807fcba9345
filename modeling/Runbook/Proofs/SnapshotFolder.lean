import Runbook.Proofs.FileWriting
import Runbook.Proofs.FolderSweep
import Runbook.Proofs.SnapshotText
import Runbook.Proofs.StoreContract

/-!
A folder that holds nothing but files of snapshots, each under the name of its own run, and what
the operations of the store in files come to on such a folder. What they do to other folders is
described as far as it does not depend on the files that are found there.
-/

namespace Runbook

open Snapshot

/-- Every entry of the folder is the snapshot of some run, of which `P` holds together with the
time of the file's last change. -/
structure Folder.Holds (P : Snapshot → Instant → Prop) (entries : Folder) : Prop where
  sorted : entries.Sorted
  entry : ∀ name node, entries.find? name = some node → ∃ s modified,
    name = fileName s.runId ∧ RunId.check s.runId = .ok () ∧
      node = .file (some s.render) modified ∧ P s modified

namespace Folder.Holds

variable {P : Snapshot → Instant → Prop} {entries : Folder}

theorem nil : Folder.Holds P [] :=
  ⟨List.Pairwise.nil, fun name node h => by simp at h⟩

theorem mono {Q : Snapshot → Instant → Prop} (h : Holds P entries) (hPQ : ∀ s t, P s t → Q s t) :
    Holds Q entries := by
  refine ⟨h.sorted, ?_⟩
  intro name node hnode
  obtain ⟨s, modified, hname, hid, heq, hP⟩ := h.entry name node hnode
  exact ⟨s, modified, hname, hid, heq, hPQ s modified hP⟩

theorem filter (h : Holds P entries) (p : String × Node → Bool) :
    Holds P (entries.filter p) := by
  refine ⟨h.sorted.filter p, ?_⟩
  intro name node hnode
  rw [h.sorted.find?_filter, Option.filter_eq_some_iff] at hnode
  exact h.entry name node hnode.1

theorem erase (h : Holds P entries) (name : String) : Holds P (entries.erase name) := by
  rw [Table.erase_eq_filter]
  exact h.filter _

theorem insert (h : Holds P entries) {s : Snapshot} {now : Instant}
    (hid : RunId.check s.runId = .ok ()) (hs : P s now) :
    Holds P (entries.insert (fileName s.runId) (.file (some s.render) now)) := by
  refine ⟨h.sorted.insert _ _, ?_⟩
  intro name node hnode
  rw [Table.find?_insert] at hnode
  split at hnode
  · next hname =>
    exact ⟨s, now, hname, hid, (Option.some.inj hnode).symm, hs⟩
  · exact h.entry name node hnode

theorem not_blocked (h : Holds P entries) (name : String) : ¬ WriteStep.Blocked entries name := by
  rintro ⟨inner, hinner⟩
  obtain ⟨s, modified, -, -, hnode, -⟩ := h.entry name _ hinner
  simp at hnode

/-- What stands under the name of a run is that run's snapshot. -/
theorem of_fileName (h : Holds P entries) {runId : String} {node : Node}
    (hnode : entries.find? (fileName runId) = some node) : ∃ s modified,
    s.runId = runId ∧ RunId.check runId = .ok () ∧ node = .file (some s.render) modified ∧
      P s modified := by
  obtain ⟨s, modified, hname, hid, heq, hP⟩ := h.entry _ _ hnode
  obtain rfl : runId = s.runId := fileName_injective hname
  exact ⟨s, modified, rfl, hid, heq, hP⟩

end Folder.Holds

namespace FileStore

instance : Cancellable FileStore where
  isCancelled store := store.cancelled
  setCancelled cancelled store := { store with cancelled }

theorem read_of_invalid {store : FileStore} {runId : String} {e : Error}
    (h : RunId.check runId = .error e) : store.read runId = .error e := by
  simp [read, h, bind, Except.bind]

/-- Reading is looking a name up, where the folder may still be missing. -/
theorem read_of_entries {store : FileStore} {entries : Folder}
    (h : entriesToWrite store.site = .ok entries) {runId : String}
    (hid : RunId.check runId = .ok ()) :
    store.read runId = readNode (store.path runId) (entries.find? (fileName runId)) := by
  unfold read
  rw [hid]
  cases hsite : store.site with
  | absent =>
    rw [hsite] at h
    obtain rfl := Except.ok.inj h
    rfl
  | blocked => simp [hsite, entriesToWrite] at h
  | folder inner =>
    rw [hsite] at h
    obtain rfl := Except.ok.inj h
    rfl

/-- Stores over folders that agree on the file of a run read alike. -/
theorem read_congr {a b : FileStore} {before after : Folder} (hdir : a.dir = b.dir)
    (ha : entriesToWrite a.site = .ok before) (hb : entriesToWrite b.site = .ok after)
    {runId : String} (h : before.find? (fileName runId) = after.find? (fileName runId)) :
    a.read runId = b.read runId := by
  rcases RunId.check_ok_or_error runId with hid | ⟨reason, hid⟩
  · rw [read_of_entries ha hid, read_of_entries hb hid, h, path, path, hdir]
  · rw [read_of_invalid hid, read_of_invalid hid]

theorem readNode_eq_ok_iff {path : String} {node : Option Node} {s : Snapshot} :
    readNode path node = .ok (some s) ↔
      ∃ text modified, node = some (.file (some text) modified) ∧ Snapshot.read text = some s := by
  constructor
  · intro h
    match node, h with
    | some (.file (some text) modified), h =>
      refine ⟨text, modified, rfl, ?_⟩
      cases hread : Snapshot.read text with
      | none => simp [readNode, hread] at h
      | some other => simpa [readNode, hread] using h
  · rintro ⟨text, modified, rfl, hread⟩
    simp [readNode, hread]

theorem readNode_eq_none_iff {path : String} {node : Option Node} :
    readNode path node = .ok none ↔ node = none := by
  constructor
  · intro h
    match node, h with
    | none, _ => rfl
    | some (.file (some text) modified), h =>
      cases hread : Snapshot.read text with
      | none => simp [readNode, hread] at h
      | some other => simp [readNode, hread] at h
  · rintro rfl
    rfl

/-- The folder after a snapshot has been written into it. -/
def withSnapshot (entries : Folder) (s : Snapshot) (now : Instant) : Folder :=
  (entries.erase (tempName s.runId)).insert (fileName s.runId) (.file (some s.render) now)

theorem find?_withSnapshot_self (entries : Folder) (s : Snapshot) (now : Instant) :
    (withSnapshot entries s now).find? (fileName s.runId) = some (.file (some s.render) now) := by
  rw [withSnapshot, Table.find?_insert, if_pos rfl]

theorem find?_withSnapshot_of_ne (entries : Folder) {s : Snapshot} (now : Instant)
    {runId : String} (hne : runId ≠ s.runId) :
    (withSnapshot entries s now).find? (fileName runId) = entries.find? (fileName runId) := by
  have hfile : fileName runId ≠ fileName s.runId := fun heq => hne (fileName_injective heq)
  rw [withSnapshot, Table.find?_insert, if_neg hfile, Table.find?_erase,
    if_neg (tempName_ne_fileName _ _).symm]

/-- The second store is the first one with these entries in its folder. -/
structure Becomes (store store' : FileStore) (entries : Folder) : Prop where
  dir : store'.dir = store.dir
  cancelled : store'.cancelled = store.cancelled
  entries : entriesToWrite store'.site = .ok entries

theorem write_of_refused {store : FileStore} {s : Snapshot} {now : Instant} {e : Error}
    (h : SnapshotStore.permission store s = .error e) :
    store.write s now = (.error e, store) := by
  rcases RunId.check_ok_or_error s.runId with hid | ⟨reason, hid⟩
  · cases hc : store.cancelled with
    | true =>
      rw [SnapshotStore.permission_of_cancelled hid hc] at h
      simp [write, hid, hc, Except.error.inj h]
    | false =>
      rw [SnapshotStore.permission_eq_ok_iff.mpr ⟨hid, hc⟩] at h
      simp at h
  · rw [SnapshotStore.permission_of_invalid hid] at h
    simp [write, hid, Except.error.inj h]

/-- A write that is not refused goes through the steps of writing. -/
theorem write_of_permitted {store : FileStore} {s : Snapshot} {now : Instant} {entries : Folder}
    (h : SnapshotStore.permission store s = .ok ())
    (hsite : entriesToWrite store.site = .ok entries) :
    ∀ {answer entries'},
      WriteStep.runAll store.stopping s.runId s.render now WriteStep.all entries =
        (answer, entries') →
      store.write s now = (answer, { store with site := .folder entries' }) := by
  intro answer entries' hrun
  obtain ⟨hid, hc⟩ := SnapshotStore.permission_eq_ok_iff.mp h
  have hlive : store.cancelled = false := hc
  simp [write, hid, hlive, hsite, hrun]

theorem write_eq_ok {store store' : FileStore} {s : Snapshot} {now : Instant}
    (h : store.write s now = (.ok (), store')) :
    SnapshotStore.permission store s = .ok () ∧
      ∃ entries, entriesToWrite store.site = .ok entries ∧
        store' = { store with site := .folder (withSnapshot entries s now) } := by
  cases hp : SnapshotStore.permission store s with
  | error e =>
    rw [write_of_refused hp] at h
    simp at h
  | ok u =>
    refine ⟨rfl, ?_⟩
    cases hsite : entriesToWrite store.site with
    | error e =>
      obtain ⟨hid, hc⟩ := SnapshotStore.permission_eq_ok_iff.mp hp
      have hlive : store.cancelled = false := hc
      simp [write, hid, hlive, hsite] at h
    | ok entries =>
      cases hran : WriteStep.runAll store.stopping s.runId s.render now WriteStep.all entries with
      | mk answer entries' =>
        rw [write_of_permitted hp hsite hran] at h
        obtain ⟨rfl, rfl⟩ := Prod.mk.inj h
        obtain ⟨-, -, -, rfl⟩ := WriteStep.runAll_all_eq_ok_iff.mp hran
        exact ⟨entries, rfl, rfl⟩

/-- A write that fails leaves all files but the temporary one of its run alone. -/
theorem write_eq_error {store store' : FileStore} {s : Snapshot} {now : Instant} {e : Error}
    (h : store.write s now = (.error e, store')) :
    store' = store ∨ ∃ entries entries', entriesToWrite store.site = .ok entries ∧
      Becomes store store' entries' ∧
      ∀ name, name ≠ tempName s.runId → entries'.find? name = entries.find? name := by
  cases hp : SnapshotStore.permission store s with
  | error other =>
    rw [write_of_refused hp] at h
    exact Or.inl (Prod.mk.inj h).2.symm
  | ok u =>
    cases hsite : entriesToWrite store.site with
    | error other =>
      obtain ⟨hid, hc⟩ := SnapshotStore.permission_eq_ok_iff.mp hp
      have hlive : store.cancelled = false := hc
      simp only [write, hid, hlive, hsite] at h
      exact Or.inl (Prod.mk.inj h).2.symm
    | ok entries =>
      cases hran : WriteStep.runAll store.stopping s.runId s.render now WriteStep.all entries with
      | mk answer entries' =>
        rw [write_of_permitted hp hsite hran] at h
        obtain ⟨rfl, rfl⟩ := Prod.mk.inj h
        refine Or.inr ⟨entries, entries', rfl, ⟨rfl, rfl, rfl⟩, ?_⟩
        intro name hname
        exact WriteStep.find?_runAll_of_error (by decide) hran hname

/-- A write that is permitted succeeds where no folder is in the way. -/
theorem write_of_unblocked {store : FileStore} {entries : Folder}
    (hsite : entriesToWrite store.site = .ok entries) {s : Snapshot}
    (htemp : ¬ WriteStep.Blocked entries (tempName s.runId))
    (hfinal : ¬ WriteStep.Blocked entries (fileName s.runId))
    (hp : SnapshotStore.permission store s = .ok ()) (now : Instant) :
    store.write s now =
      (.ok (), { store with site := .folder (withSnapshot entries s now) }) := by
  have hlive : store.cancelled = false := (SnapshotStore.permission_eq_ok_iff.mp hp).2
  have hfault : ∀ step, store.stopping step = none := by
    intro step
    cases step <;> simp [stopping, hlive]
  apply write_of_permitted hp hsite
  exact WriteStep.runAll_all_eq_ok_iff.mpr ⟨hfault, htemp, hfinal, rfl⟩

theorem write_of_holds {P : Snapshot → Instant → Prop} {store : FileStore} {entries : Folder}
    (hsite : entriesToWrite store.site = .ok entries) (h : Folder.Holds P entries)
    {s : Snapshot} (hp : SnapshotStore.permission store s = .ok ()) (now : Instant) :
    store.write s now =
      (.ok (), { store with site := .folder (withSnapshot entries s now) }) :=
  write_of_unblocked hsite (h.not_blocked _) (h.not_blocked _) hp now

theorem delete_of_invalid {store : FileStore} {runId : String} {e : Error}
    (h : RunId.check runId = .error e) : store.delete runId = (.error e, store) := by
  simp [delete, h]

/-- Deleting takes the file of a run out of the folder, unless a folder has its name. -/
theorem delete_of_folder {store : FileStore} {entries : Folder}
    (hsite : store.site = .folder entries) {runId : String}
    (hfree : ¬ WriteStep.Blocked entries (fileName runId)) (hid : RunId.check runId = .ok ()) :
    store.delete runId = (.ok (entries.contains (fileName runId)),
      { store with site := .folder (entries.erase (fileName runId)) }) := by
  cases hnode : entries.find? (fileName runId) with
  | none =>
    have hsame : { store with site := .folder entries } = store := by rw [← hsite]
    rw [Table.erase_of_not_mem (Table.find?_eq_none_iff.mp hnode), hsame]
    simp [delete, hid, hsite, hnode, Table.contains]
  | some node =>
    cases node with
    | folder inner => exact absurd ⟨inner, hnode⟩ hfree
    | file text modified => simp [delete, hid, hsite, hnode, Table.contains]

theorem delete_of_holds {P : Snapshot → Instant → Prop} {store : FileStore} {entries : Folder}
    (hsite : entriesToWrite store.site = .ok entries) (h : Folder.Holds P entries)
    {runId : String} (hid : RunId.check runId = .ok ()) :
    ∃ store', store.delete runId = (.ok (entries.contains (fileName runId)), store') ∧
      Becomes store store' (entries.erase (fileName runId)) := by
  cases hs : store.site with
  | blocked => simp [hs, entriesToWrite] at hsite
  | absent =>
    rw [hs] at hsite
    obtain rfl := Except.ok.inj hsite
    refine ⟨store, by simp [delete, hid, hs, Table.contains], rfl, rfl, ?_⟩
    rw [hs]
    rfl
  | folder inner =>
    rw [hs] at hsite
    obtain rfl := Except.ok.inj hsite
    exact ⟨_, delete_of_folder hs (h.not_blocked _) hid, rfl, rfl, rfl⟩

theorem listed_cases {store : FileStore} {entries : Folder}
    (hsite : entriesToWrite store.site = .ok entries) :
    store.listed = .absent ∨ store.listed = .folder entries := by
  unfold listed
  split
  · exact Or.inl rfl
  · cases hs : store.site with
    | absent => exact Or.inl rfl
    | blocked => simp [hs, entriesToWrite] at hsite
    | folder inner =>
      rw [hs] at hsite
      rw [Except.ok.inj hsite]
      exact Or.inr rfl

theorem eq_nil_of_listed_absent {store : FileStore} {entries : Folder} (hdir : store.dir ≠ "")
    (habsent : store.listed = .absent) (hsite : entriesToWrite store.site = .ok entries) :
    entries = [] := by
  have hnonempty : store.dir.isEmpty = false := by simpa using hdir
  rw [listed, hnonempty] at habsent
  have hs : store.site = .absent := habsent
  rw [hs] at hsite
  exact (Except.ok.inj hsite).symm

theorem available_cases {store : FileStore} {entries : Folder}
    (hsite : entriesToWrite store.site = .ok entries) :
    store.listed = .absent ∧ store.available = .ok [] ∨
      store.available =
        .ok (.ofList (entries.filterMap fun (name, node) => store.resumable? name node)) := by
  rcases listed_cases hsite with habsent | hfolder
  · refine Or.inl ⟨habsent, ?_⟩
    rw [available, habsent]
  · refine Or.inr ?_
    rw [available, hfolder]

/-- A folder with a path is listed as it is; while it is missing there is nothing to list. -/
theorem available_of_entries {store : FileStore} {entries : Folder} (hdir : store.dir ≠ "")
    (hsite : entriesToWrite store.site = .ok entries) : store.available =
      .ok (.ofList (entries.filterMap fun (name, node) => store.resumable? name node)) := by
  rcases available_cases hsite with ⟨habsent, havailable⟩ | havailable
  · obtain rfl := eq_nil_of_listed_absent hdir habsent hsite
    exact havailable
  · exact havailable

theorem removeBefore_cases {store : FileStore} {entries : Folder}
    (hsite : entriesToWrite store.site = .ok entries) (h : entries.Sorted) (cutoff : Instant) :
    store.listed = .absent ∧ store.removeBefore cutoff = (.ok 0, store) ∨
      ∃ store', store.removeBefore cutoff =
        (.ok (entries.filter (isCounted cutoff)).length, store') ∧
          Becomes store store' (entries.filter (isKept cutoff)) := by
  rcases listed_cases hsite with habsent | hfolder
  · exact Or.inl ⟨habsent, removeBefore_of_absent habsent cutoff⟩
  · exact Or.inr ⟨_, removeBefore_eq hfolder h cutoff, rfl, rfl, rfl⟩

theorem removeBefore_of_entries {store : FileStore} {entries : Folder} (hdir : store.dir ≠ "")
    (hsite : entriesToWrite store.site = .ok entries) (h : entries.Sorted) (cutoff : Instant) :
    ∃ store', store.removeBefore cutoff =
      (.ok (entries.filter (isCounted cutoff)).length, store') ∧
        Becomes store store' (entries.filter (isKept cutoff)) := by
  rcases removeBefore_cases hsite h cutoff with ⟨habsent, hremoved⟩ | hremoved
  · obtain rfl := eq_nil_of_listed_absent hdir habsent hsite
    exact ⟨store, hremoved, rfl, rfl, hsite⟩
  · exact hremoved

/-- The entries of a filtered folder are those of the folder, or gone. -/
theorem read_filter {store store' : FileStore} {entries : Folder}
    (hsite : entriesToWrite store.site = .ok entries) (h : entries.Sorted)
    {p : String × Node → Bool} (hbecomes : Becomes store store' (entries.filter p))
    (runId : String) :
    store'.read runId = store.read runId ∨ store'.read runId = .ok none := by
  rcases RunId.check_ok_or_error runId with hid | ⟨reason, hid⟩
  · rw [read_of_entries hsite hid, read_of_entries hbecomes.entries hid, h.find?_filter]
    cases hkept :
        (entries.find? (fileName runId)).filter (fun node => p (fileName runId, node)) with
    | none => exact Or.inr rfl
    | some node =>
      rw [(Option.filter_eq_some_iff.mp hkept).1, path, path, hbecomes.dir]
      exact Or.inl rfl
  · rw [read_of_invalid hid, read_of_invalid hid]
    exact Or.inl rfl

end FileStore

end Runbook
