import Runbook.Proofs.FileContract
import Runbook.Proofs.StoreSimulation

/-!
What a store in files sees of its folder: the files that are named for a run, and nothing else. The
runs that it lists are those whose snapshots can be read and are in progress. Two stores whose
folders agree on the files of snapshots answer every call alike and agree again after it, whatever
is left of unfinished writes in either folder and whatever other files lie about.
-/

namespace Runbook

open Snapshot

/-- The folders have the same files of snapshots. -/
def Folder.SameSnapshots (left right : Folder) : Prop :=
  ∀ runId, RunId.check runId = .ok () →
    left.find? (fileName runId) = right.find? (fileName runId)

namespace Folder.SameSnapshots

variable {left right : Folder}

/-- Entries that are no snapshots do not count. -/
theorem filter_snapshots (h : left.Sorted) :
    SameSnapshots left (left.filter fun entry => (runIdOf? entry.1).isSome) := by
  intro runId hid
  have hkept : (fun _ : Node => (runIdOf? (fileName runId)).isSome) = fun _ => true := by
    rw [runIdOf?_fileName (RunId.check_eq_ok_iff.mp hid), Option.isSome_some]
  rw [h.find?_filter, hkept]
  cases left.find? (fileName runId) <;> rfl

theorem filter (h : SameSnapshots left right) (hleft : left.Sorted) (hright : right.Sorted)
    (p : String × Node → Bool) : SameSnapshots (left.filter p) (right.filter p) := by
  intro runId hid
  rw [hleft.find?_filter, hright.find?_filter, h runId hid]

theorem erase (h : SameSnapshots left right) (name : String) :
    SameSnapshots (left.erase name) (right.erase name) := by
  intro runId hid
  rw [Table.find?_erase, Table.find?_erase, h runId hid]

theorem withSnapshot (h : SameSnapshots left right) (s : Snapshot) (now : Instant) :
    SameSnapshots (FileStore.withSnapshot left s now) (FileStore.withSnapshot right s now) := by
  intro runId hid
  by_cases hown : runId = s.runId
  · rw [hown, FileStore.find?_withSnapshot_self, FileStore.find?_withSnapshot_self]
  · rw [FileStore.find?_withSnapshot_of_ne _ _ hown, FileStore.find?_withSnapshot_of_ne _ _ hown,
      h runId hid]

end Folder.SameSnapshots

namespace FileStore

open SnapshotStore (permission)
open Snapshot.WriteStep (Blocked)

/-- The path of the store leads to a folder, and the folder holds regular files only. -/
structure Lists (store : FileStore) (entries : Folder) : Prop where
  listed : store.listed = .folder entries
  sorted : entries.Sorted
  regular : ∀ name, ¬ Blocked entries name

namespace Lists

variable {store : FileStore} {entries : Folder}

theorem site (h : store.Lists entries) : store.site = .folder entries := by
  have hlisted := h.listed
  unfold FileStore.listed at hlisted
  split at hlisted
  · simp at hlisted
  · exact hlisted

theorem entriesToWrite (h : store.Lists entries) :
    FileStore.entriesToWrite store.site = .ok entries := by
  rw [h.site]
  rfl

/-- The store keeps its path when other files come to be in its folder. -/
theorem replace (h : store.Lists entries) {after : Folder} (hsorted : after.Sorted)
    (hregular : ∀ name, ¬ Blocked after name) :
    Lists { store with site := .folder after } after := by
  refine ⟨?_, hsorted, hregular⟩
  have hlisted := h.listed
  unfold FileStore.listed at hlisted ⊢
  split at hlisted
  · simp at hlisted
  · next hdir => exact if_neg hdir

theorem filter (h : store.Lists entries) (p : String × Node → Bool) :
    Lists { store with site := .folder (entries.filter p) } (entries.filter p) := by
  refine h.replace (h.sorted.filter p) ?_
  rintro name ⟨inner, hinner⟩
  rw [h.sorted.find?_filter, Option.filter_eq_some_iff] at hinner
  exact h.regular name ⟨inner, hinner.1⟩

theorem erase (h : store.Lists entries) (name : String) :
    Lists { store with site := .folder (entries.erase name) } (entries.erase name) := by
  rw [Table.erase_eq_filter]
  exact h.filter _

theorem withSnapshot (h : store.Lists entries) (s : Snapshot) (now : Instant) :
    Lists { store with site := .folder (withSnapshot entries s now) }
      (withSnapshot entries s now) := by
  refine h.replace ((h.sorted.erase _).insert _ _) ?_
  rintro name ⟨inner, hinner⟩
  rw [FileStore.withSnapshot, Table.find?_insert] at hinner
  split at hinner
  · simp at hinner
  · rw [Table.find?_erase] at hinner
    split at hinner
    · simp at hinner
    · exact h.regular name ⟨inner, hinner⟩

theorem available_eq (h : store.Lists entries) : store.available =
    .ok (.ofList (entries.filterMap fun (name, node) => store.resumable? name node)) := by
  rw [available, h.listed]

/-- The listing is in order and shows the runs in progress that can be read. -/
theorem available_exact (h : store.Lists entries) :
    ∃ names, store.available = .ok names ∧ Names.Ascending names ∧
      ∀ runId, runId ∈ names ↔ RunId.check runId = .ok () ∧
        ∃ s, store.read runId = .ok (some s) ∧ s.status = .inProgress := by
  refine ⟨_, h.available_eq, Names.ascending_ofList _, ?_⟩
  intro runId
  rw [mem_resumable_iff h.entriesToWrite h.sorted]
  constructor
  · rintro ⟨s, hread, hstatus⟩
    have hread' : SnapshotStore.read store runId = .ok (some s) := hread
    exact ⟨LawfulStore.check_of_read hread', s, hread, hstatus⟩
  · rintro ⟨-, s, hread, hstatus⟩
    exact ⟨s, hread, hstatus⟩

end Lists

/-- Stores at one path whose folders have the same files of snapshots. -/
structure Alike (a b : FileStore) : Prop where
  dir : a.dir = b.dir
  token : a.cancelled = b.cancelled
  folders : ∃ left right, a.Lists left ∧ b.Lists right ∧ Folder.SameSnapshots left right

namespace Alike

variable {a b : FileStore}

theorem read_eq (h : Alike a b) (runId : String) : a.read runId = b.read runId := by
  obtain ⟨left, right, hleft, hright, hsame⟩ := h.folders
  rcases RunId.check_ok_or_error runId with hid | ⟨reason, hid⟩
  · exact read_congr h.dir hleft.entriesToWrite hright.entriesToWrite (hsame runId hid)
  · rw [read_of_invalid hid, read_of_invalid hid]

theorem permission_eq (h : Alike a b) (s : Snapshot) : permission a s = permission b s := by
  have htoken : isCancelled a = isCancelled b := h.token
  simp only [permission, htoken]

theorem write (h : Alike a b) (s : Snapshot) (now : Instant) :
    (a.write s now).1 = (b.write s now).1 ∧ Alike (a.write s now).2 (b.write s now).2 := by
  cases hp : permission a s with
  | error e =>
    rw [write_of_refused hp, write_of_refused (h.permission_eq s ▸ hp)]
    exact ⟨rfl, h⟩
  | ok u =>
    obtain ⟨left, right, hleft, hright, hsame⟩ := h.folders
    rw [write_of_unblocked hleft.entriesToWrite (hleft.regular _) (hleft.regular _) hp,
      write_of_unblocked hright.entriesToWrite (hright.regular _) (hright.regular _)
        (h.permission_eq s ▸ hp)]
    exact ⟨rfl, h.dir, h.token, _, _, hleft.withSnapshot s now, hright.withSnapshot s now,
      hsame.withSnapshot s now⟩

theorem delete (h : Alike a b) (runId : String) :
    (a.delete runId).1 = (b.delete runId).1 ∧ Alike (a.delete runId).2 (b.delete runId).2 := by
  rcases RunId.check_ok_or_error runId with hid | ⟨reason, hid⟩
  · obtain ⟨left, right, hleft, hright, hsame⟩ := h.folders
    rw [delete_of_folder hleft.site (hleft.regular _) hid,
      delete_of_folder hright.site (hright.regular _) hid]
    refine ⟨?_, h.dir, h.token, _, _, hleft.erase _, hright.erase _, hsame.erase _⟩
    simp only [Table.contains, hsame runId hid]
  · rw [delete_of_invalid hid, delete_of_invalid hid]
    exact ⟨rfl, h⟩

theorem available_eq (h : Alike a b) : a.available = b.available := by
  obtain ⟨left, right, hleft, hright, -⟩ := h.folders
  obtain ⟨names, ha, hascending, hmem⟩ := hleft.available_exact
  obtain ⟨others, hb, hascending', hmem'⟩ := hright.available_exact
  have hnames : names = others := by
    apply hascending.ext hascending'
    intro runId
    rw [hmem, hmem', h.read_eq]
  rw [ha, hb, hnames]

theorem removeBefore (h : Alike a b) (cutoff : Instant) :
    (a.removeBefore cutoff).1 = (b.removeBefore cutoff).1 ∧
      Alike (a.removeBefore cutoff).2 (b.removeBefore cutoff).2 := by
  obtain ⟨left, right, hleft, hright, hsame⟩ := h.folders
  have hswept : (sweptIds cutoff left).Perm (sweptIds cutoff right) := by
    refine (List.perm_ext_iff_of_nodup (nodup_sweptIds cutoff hleft.sorted)
      (nodup_sweptIds cutoff hright.sorted)).mpr ?_
    intro runId
    rw [mem_sweptIds_iff hleft.sorted, mem_sweptIds_iff hright.sorted]
    refine and_congr_right fun hid => ?_
    rw [hsame runId hid]
  rw [removeBefore_eq hleft.listed hleft.sorted, removeBefore_eq hright.listed hright.sorted]
  refine ⟨?_, h.dir, h.token, _, _, hleft.filter _, hright.filter _,
    hsame.filter hleft.sorted hright.sorted _⟩
  rw [← length_sweptIds, ← length_sweptIds, hswept.length_eq]

theorem setCancelled (h : Alike a b) (cancelled : Bool) :
    Alike (setCancelled cancelled a) (setCancelled cancelled b) := by
  obtain ⟨left, right, hleft, hright, hsame⟩ := h.folders
  exact ⟨h.dir, rfl, left, right, ⟨hleft.listed, hleft.sorted, hleft.regular⟩,
    ⟨hright.listed, hright.sorted, hright.regular⟩, hsame⟩

theorem simulation : Simulation Alike fun _ => True where
  find_eq h runId := by
    rw [LawfulStore.find_eq, LawfulStore.find_eq]
    exact h.read_eq runId
  write h s _ now _ := h.write s now
  delete h runId := h.delete runId
  available_eq h := h.available_eq
  removeBefore h cutoff := h.removeBefore cutoff
  setCancelled h cancelled := h.setCancelled cancelled

end Alike

open SnapshotStore (load save)

/-- The listing of a folder is exact, and no answer of a store shows what else its folder holds
than the files of snapshots. -/
theorem directory_view {a b : FileStore} {left right : Folder} (ha : a.Lists left)
    (hb : b.Lists right) (hdir : a.dir = b.dir) (htoken : a.cancelled = b.cancelled)
    (hsame : Folder.SameSnapshots left right) :
    (∃ names, a.available = .ok names ∧ Names.Ascending names ∧
      ∀ runId, runId ∈ names ↔ RunId.check runId = .ok () ∧
        ∃ s, a.read runId = .ok (some s) ∧ s.status = .inProgress) ∧
    a.available = b.available ∧
    (∀ runId, a.read runId = b.read runId ∧ load a runId = load b runId ∧
      (a.delete runId).1 = (b.delete runId).1) ∧
    (∀ ctx conversation now,
      (save a ctx conversation now).1 = (save b ctx conversation now).1) ∧
    (∀ cutoff, (a.removeBefore cutoff).1 = (b.removeBefore cutoff).1) ∧
    ∀ calls, List.Forall₂ (fun x y => x.1 = y.1 ∧ Alike x.2 y.2)
      (Call.trace a calls) (Call.trace b calls) := by
  have h : Alike a b := ⟨hdir, htoken, left, right, ha, hb, hsame⟩
  refine ⟨ha.available_exact, h.available_eq, ?_, ?_, fun cutoff => (h.removeBefore cutoff).1, ?_⟩
  · intro runId
    refine ⟨h.read_eq runId, ?_, (h.delete runId).1⟩
    rw [load, load, Alike.simulation.find_eq h]
  · intro ctx conversation now
    exact (Alike.simulation.save h ctx conversation now fun _ _ => trivial).1
  · intro calls
    exact Alike.simulation.trace h calls fun _ _ => trivial

/-- The snapshot of a run that has just begun. -/
def begun : Snapshot := (capture (.bare "r") [] none ⟨0, 0⟩).setStatus .inProgress ⟨0, 0⟩

/-- A folder with one snapshot among what others have left there. -/
def litteredFolder : Folder :=
  [("R.JSON", .file (some "") ⟨0, 0⟩),
    ("notes.txt", .file none ⟨0, 0⟩),
    ("r.json", .file (some begun.render) ⟨0, 0⟩),
    ("r.json.tmp", .file (some "") ⟨0, 0⟩)]

/-- The same folder with its snapshot alone. -/
def tidyFolder : Folder := litteredFolder.filter fun entry => (runIdOf? entry.1).isSome

theorem sorted_littered : litteredFolder.Sorted := by
  unfold Table.Sorted
  decide +kernel

theorem read_littered (dir : String) :
    (⟨dir, .folder litteredFolder, false⟩ : FileStore).read "r" = .ok (some begun) := by
  have hfile : Table.find? (fileName "r") litteredFolder =
      some (.file (some begun.render) ⟨0, 0⟩) := by rfl
  rw [read_of_entries rfl rfl, hfile, readNode_eq_ok_iff]
  exact ⟨_, _, rfl, Snapshot.readsBack_of_bare "r" .inProgress⟩

theorem directory_view_of_littered :
    tidyFolder.keys = ["r.json"] ∧
    (⟨"state", .folder litteredFolder, false⟩ : FileStore).available =
      (⟨"state", .folder tidyFolder, false⟩ : FileStore).available ∧
    ∃ names, (⟨"state", .folder litteredFolder, false⟩ : FileStore).available = .ok names ∧
      "r" ∈ names := by
  have hregular : ∀ name, ¬ Blocked litteredFolder name := by
    rintro name ⟨inner, hinner⟩
    have hmem := Table.mem_of_find? hinner
    simp [litteredFolder] at hmem
  have hlittered : Lists ⟨"state", .folder litteredFolder, false⟩ litteredFolder :=
    ⟨rfl, sorted_littered, hregular⟩
  have htidy : Lists ⟨"state", .folder tidyFolder, false⟩ tidyFolder := hlittered.filter _
  have hview := directory_view hlittered htidy rfl rfl (.filter_snapshots sorted_littered)
  obtain ⟨⟨names, havailable, -, hmem⟩, hsame, -⟩ := hview
  have hread := read_littered "state"
  exact ⟨by decide +kernel, hsame, names, havailable, (hmem "r").mpr ⟨rfl, begun, hread, rfl⟩⟩

/-- The empty path can be extended to that of a file but leads to no folder: without a path a store
lists nothing, and reads the same snapshots as at any path. -/
theorem pathless_view (entries : Folder) (cancelled : Bool) :
    (⟨"", .folder entries, cancelled⟩ : FileStore).available = .ok [] ∧
    ∀ dir runId s, (⟨"", .folder entries, cancelled⟩ : FileStore).read runId = .ok (some s) ↔
      (⟨dir, .folder entries, cancelled⟩ : FileStore).read runId = .ok (some s) := by
  refine ⟨rfl, ?_⟩
  intro dir runId s
  rcases RunId.check_ok_or_error runId with hid | ⟨reason, hid⟩
  · rw [read_of_entries rfl hid, read_of_entries rfl hid, readNode_eq_ok_iff, readNode_eq_ok_iff]
  · rw [read_of_invalid hid, read_of_invalid hid]

end FileStore

end Runbook
