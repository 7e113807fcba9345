import Mathlib.Data.List.Nodup
import Runbook.Proofs.SnapshotNames
import Runbook.Proofs.SortedTables

/-!
Sweeping a folder and listing it, whatever it holds. The sweep goes from name to name and
removes what is stale; the outcome is the folder filtered, and the count is the number of runs
whose snapshots went.
-/

namespace Runbook.FileStore

open Snapshot

def isKept (cutoff : Instant) (entry : String × Node) : Bool := !isStale cutoff entry.1 entry.2

/-- A stale file that is no temporary one. -/
def isCounted (cutoff : Instant) (entry : String × Node) : Bool :=
  isStale cutoff entry.1 entry.2 && (runIdOf? entry.1).isSome

theorem sweep_of_stale {cutoff : Instant} {count : Nat} {entries : Folder} {name : String}
    {node : Node} (hfind : entries.find? name = some node)
    (hstale : isStale cutoff name node = true) :
    sweep cutoff count entries name =
      (if (runIdOf? name).isSome then count + 1 else count, entries.erase name) := by
  simp only [sweep, hfind, hstale, if_true]

theorem sweep_of_fresh {cutoff : Instant} {count : Nat} {entries : Folder} {name : String}
    {node : Node} (hfind : entries.find? name = some node)
    (hfresh : isStale cutoff name node = false) :
    sweep cutoff count entries name = (count, entries) := by
  simp [sweep, hfind, hfresh]

/-- The sweep of the names still to come, behind entries that it has left. The induction is on
these names; what has been left can only grow at its end. -/
theorem foldl_sweep (cutoff : Instant) (left todo : Folder) (count : Nat)
    (hn : (Table.keys (left ++ todo)).Nodup) :
    todo.keys.foldl (fun (count, entries) name => sweep cutoff count entries name)
        (count, left ++ todo) =
      (count + (todo.filter (isCounted cutoff)).length,
        left ++ todo.filter (isKept cutoff)) := by
  induction todo generalizing left count with
  | nil => simp [Table.keys]
  | cons entry rest ih =>
    obtain ⟨name, node⟩ := entry
    have hkeys : Table.keys (left ++ (name, node) :: rest) =
        left.keys ++ name :: Table.keys rest := by
      simp [Table.keys]
    rw [hkeys] at hn
    obtain ⟨-, hrest, hdisjoint⟩ := List.nodup_append.mp hn
    have hleft : name ∉ left.keys := fun h => hdisjoint name h name List.mem_cons_self rfl
    have hright : name ∉ Table.keys rest := (List.nodup_cons.mp hrest).1
    have hfind : Table.find? name (left ++ (name, node) :: rest) = some node := by
      rw [Table.find?_append_of_not_mem _ hleft]
      simp [Table.find?]
    change (Table.keys rest).foldl _ (sweep cutoff count (left ++ (name, node) :: rest) name) = _
    cases hstale : isStale cutoff name node with
    | true =>
      have herase : Table.erase name (left ++ (name, node) :: rest) = left ++ rest := by
        have hcons : Table.erase name ((name, node) :: rest) = Table.erase name rest := by
          simp [Table.erase]
        rw [Table.erase_append, hcons, Table.erase_of_not_mem hleft,
          Table.erase_of_not_mem hright]
      have hnodup : (Table.keys (left ++ rest)).Nodup := by
        rw [Table.keys, List.map_append]
        exact hn.sublist ((List.Sublist.refl _).append (List.sublist_cons_self _ _))
      rw [sweep_of_stale hfind hstale, herase, ih left _ hnodup]
      cases hid : (runIdOf? name).isSome
      · simp [isCounted, isKept, hstale, hid]
      · simp [isCounted, isKept, hstale, hid]
        omega
    | false =>
      have hshift : left ++ (name, node) :: rest = (left ++ [(name, node)]) ++ rest := by simp
      have hnodup : (Table.keys ((left ++ [(name, node)]) ++ rest)).Nodup := by
        rw [← hshift, hkeys]
        exact hn
      rw [sweep_of_fresh hfind hstale, hshift, ih (left ++ [(name, node)]) count hnodup]
      simp [isCounted, isKept, hstale]

theorem removeBefore_eq {store : FileStore} {entries : Folder}
    (hlisted : store.listed = .folder entries) (h : entries.Sorted) (cutoff : Instant) :
    store.removeBefore cutoff = (.ok (entries.filter (isCounted cutoff)).length,
      { store with site := .folder (entries.filter (isKept cutoff)) }) := by
  have hsweep := foldl_sweep cutoff [] entries 0 h.keys_nodup
  simp only [List.nil_append, Nat.zero_add] at hsweep
  unfold removeBefore
  rw [hlisted]
  simp only [hsweep]

theorem removeBefore_of_absent {store : FileStore} (hlisted : store.listed = .absent)
    (cutoff : Instant) : store.removeBefore cutoff = (.ok 0, store) := by
  simp [removeBefore, hlisted]

/-- The runs whose snapshots a sweep removes. -/
def sweptIds (cutoff : Instant) (entries : Folder) : List String :=
  (Table.keys (entries.filter (isCounted cutoff))).filterMap runIdOf?

theorem length_sweptIds (cutoff : Instant) (entries : Folder) :
    (sweptIds cutoff entries).length = (entries.filter (isCounted cutoff)).length := by
  have hall : ∀ name ∈ Table.keys (entries.filter (isCounted cutoff)),
      (runIdOf? name).isSome = true := by
    intro name hname
    obtain ⟨entry, hentry, rfl⟩ := List.mem_map.mp hname
    exact (Bool.and_eq_true_iff.mp (List.mem_filter.mp hentry).2).2
  have hlength := List.filterMap_length_eq_length.mpr hall
  simpa only [sweptIds, Table.keys, List.length_map] using hlength

theorem nodup_sweptIds (cutoff : Instant) {entries : Folder} (h : entries.Sorted) :
    (sweptIds cutoff entries).Nodup := by
  refine List.Nodup.filterMap ?_ (h.filter _).keys_nodup
  intro a b runId ha hb
  rw [(runIdOf?_eq_some_iff.mp ha).1, (runIdOf?_eq_some_iff.mp hb).1]

theorem mem_sweptIds_iff {cutoff : Instant} {entries : Folder} (h : entries.Sorted)
    {runId : String} : runId ∈ sweptIds cutoff entries ↔ RunId.check runId = .ok () ∧
      ∃ node, entries.find? (fileName runId) = some node ∧
        isStale cutoff (fileName runId) node = true := by
  unfold sweptIds
  rw [List.mem_filterMap, RunId.check_eq_ok_iff]
  constructor
  · rintro ⟨name, hname, hid⟩
    obtain ⟨rfl, hvalid⟩ := runIdOf?_eq_some_iff.mp hid
    obtain ⟨node, hnode, hcounted⟩ := (Table.mem_keys_filter h _ _).mp hname
    exact ⟨hvalid, node, hnode, (Bool.and_eq_true_iff.mp hcounted).1⟩
  · rintro ⟨hvalid, node, hnode, hstale⟩
    refine ⟨fileName runId, (Table.mem_keys_filter h _ _).mpr ⟨node, hnode, ?_⟩,
      runIdOf?_fileName hvalid⟩
    simp [isCounted, hstale, runIdOf?_fileName hvalid]

/-- The listing of a folder consists of the runs whose snapshots can be read and are in
progress. -/
theorem mem_filterMap_resumable_iff {store : FileStore} {entries : Folder} (h : entries.Sorted)
    {runId : String} :
    runId ∈ entries.filterMap (fun (name, node) => store.resumable? name node) ↔
      RunId.check runId = .ok () ∧ ∃ s, readNode (store.path runId)
        (entries.find? (fileName runId)) = .ok (some s) ∧ s.status = .inProgress := by
  have hresumable : ∀ name node, store.resumable? name node = some runId ↔
      runIdOf? name = some runId ∧
        ∃ s, readNode (store.path runId) (some node) = .ok (some s) ∧ s.status = .inProgress := by
    intro name node
    unfold resumable?
    cases hid : runIdOf? name with
    | none => simp
    | some other =>
      simp only [Option.bind_eq_bind, Option.bind_some, Option.some.injEq]
      constructor
      · intro hmatch
        split at hmatch
        · next s hs =>
          split at hmatch
          · next hstatus =>
            obtain rfl := Option.some.inj hmatch
            exact ⟨rfl, s, hs, hstatus⟩
          · simp at hmatch
        · simp at hmatch
      · rintro ⟨rfl, s, hs, hstatus⟩
        simp [hs, hstatus]
  rw [List.mem_filterMap, RunId.check_eq_ok_iff]
  constructor
  · rintro ⟨⟨name, node⟩, hmem, hmatch⟩
    obtain ⟨hid, s, hs, hstatus⟩ := (hresumable name node).mp hmatch
    obtain ⟨rfl, hvalid⟩ := runIdOf?_eq_some_iff.mp hid
    rw [h.find?_eq_some_iff.mpr hmem]
    exact ⟨hvalid, s, hs, hstatus⟩
  · rintro ⟨hvalid, s, hs, hstatus⟩
    cases hnode : entries.find? (fileName runId) with
    | none => simp [hnode, readNode] at hs
    | some node =>
      rw [hnode] at hs
      exact ⟨(fileName runId, node), Table.mem_of_find? hnode,
        (hresumable _ _).mpr ⟨runIdOf?_fileName hvalid, s, hs, hstatus⟩⟩

end Runbook.FileStore
