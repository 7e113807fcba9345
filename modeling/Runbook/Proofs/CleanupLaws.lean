import Runbook.Proofs.DirectoryView
import Runbook.Proofs.MemoryContract
import Runbook.Proofs.WriteFaults

/-!
What a cleanup comes to, whatever the store holds. It takes away just the entries that were last
changed before its cutoff and counts the snapshots among them; after it, a cleanup with an earlier
cutoff finds nothing, and one with a later cutoff does what was left of its work. Both kinds of
store clean up by a rule for what has expired, from which these laws follow. They fail for files in
a folder without a path, which are read and written but never listed.
-/

namespace Runbook

open SnapshotStore (removeBefore)

/-- What is not after one instant is not after a later one. -/
theorem Instant.before_of_le {t cutoff later : Instant} (hle : later.before cutoff = false)
    (h : t.before cutoff = true) : t.before later = true := by
  rw [not_before_iff] at hle
  rw [before_iff] at h ⊢
  omega

/-- Which entries of a table have expired at a cutoff, and which of them are counted when they are
taken out. -/
structure ExpiryRule (α : Type) where
  expired : Instant → String × α → Bool
  counted : String × α → Bool
  /-- What has expired stays so. -/
  expired_of_le : ∀ {cutoff later entry}, later.before cutoff = false →
    expired cutoff entry = true → expired later entry = true

namespace ExpiryRule

variable {α : Type} (rule : ExpiryRule α) {cutoff earlier later : Instant} (t : Table α)

def left (cutoff : Instant) (t : Table α) : Table α :=
  t.filter fun entry => !rule.expired cutoff entry

def count (cutoff : Instant) (t : Table α) : Nat :=
  (t.filter fun entry => rule.expired cutoff entry && rule.counted entry).length

theorem sorted_left {t : Table α} (h : t.Sorted) : (rule.left cutoff t).Sorted := h.filter _

theorem left_of_left (h : cutoff.before earlier = false) :
    rule.left earlier (rule.left cutoff t) = rule.left cutoff t := by
  apply List.filter_eq_self.mpr
  intro entry hentry
  have hkept := (List.mem_filter.mp hentry).2
  rw [Bool.not_eq_true'] at hkept ⊢
  by_contra hexpired
  rw [rule.expired_of_le h (Bool.not_eq_false _ ▸ hexpired)] at hkept
  simp at hkept

theorem count_of_left (h : cutoff.before earlier = false) :
    rule.count earlier (rule.left cutoff t) = 0 := by
  have hleft := rule.left_of_left t h
  rw [count, List.length_eq_zero_iff, List.filter_eq_nil_iff]
  intro entry hentry hcounted
  rw [← hleft] at hentry
  have hkept := (List.mem_filter.mp hentry).2
  rw [Bool.not_eq_true', (Bool.and_eq_true_iff.mp hcounted).1] at hkept
  simp at hkept

theorem left_left (h : later.before cutoff = false) :
    rule.left later (rule.left cutoff t) = rule.left later t := by
  rw [left, left, List.filter_filter]
  apply List.filter_congr
  intro entry _
  cases hexpired : rule.expired cutoff entry with
  | true => simp [rule.expired_of_le h hexpired]
  | false => simp

theorem count_add (h : later.before cutoff = false) :
    rule.count cutoff t + rule.count later (rule.left cutoff t) = rule.count later t := by
  simp only [count, left, List.filter_filter, ← List.countP_eq_length_filter]
  induction t with
  | nil => rfl
  | cons entry rest ih =>
    simp only [List.countP_cons]
    cases hexpired : rule.expired cutoff entry with
    | true =>
      simp only [rule.expired_of_le h hexpired, Bool.true_and, Bool.not_true, Bool.and_false,
        Bool.false_eq_true, if_false]
      omega
    | false =>
      simp only [Bool.false_and, Bool.false_eq_true, if_false, Bool.not_false, Bool.and_true]
      omega

end ExpiryRule

/-- The expired entries are gone, all else stands where it stood, and the count is the number of
the snapshots that went. -/
structure Cleaned {α : Type} (Expired : String → α → Prop) (IsSnapshot : String → Prop)
    (before after : String → Option α) (count : Nat) : Prop where
  gone : ∀ name entry, before name = some entry → Expired name entry → after name = none
  kept : ∀ name, (∀ entry, before name = some entry → ¬ Expired name entry) →
    after name = before name
  counted : ∃ names : List String, names.Nodup ∧ names.length = count ∧ ∀ name, name ∈ names ↔
    IsSnapshot name ∧ ∃ entry, before name = some entry ∧ Expired name entry

/-- The laws of cleaning up a store, where entries stand under names. -/
structure CleansUp {σ α : Type} [SnapshotStore σ] (held? : σ → String → Option α)
    (Expired : Instant → String → α → Prop) (IsSnapshot : String → Prop) (store : σ) : Prop where
  once : ∀ cutoff, ∃ count after, removeBefore store cutoff = (.ok count, after) ∧
    Cleaned (Expired cutoff) IsSnapshot (held? store) (held? after) count
  again : ∀ cutoff earlier count after, removeBefore store cutoff = (.ok count, after) →
    cutoff.before earlier = false → removeBefore after earlier = (.ok 0, after)
  composed : ∀ cutoff later count after, removeBefore store cutoff = (.ok count, after) →
    later.before cutoff = false → ∃ more last, removeBefore after later = (.ok more, last) ∧
      removeBefore store later = (.ok (count + more), last)

namespace ExpiryRule

variable {σ α : Type} [SnapshotStore σ] {rule : ExpiryRule α} {hold : Table α → σ}
  {held? : σ → String → Option α} {Expired : Instant → String → α → Prop}
  {IsSnapshot : String → Prop} {t : Table α}

theorem cleaned (hexpired : ∀ cutoff name entry,
      rule.expired cutoff (name, entry) = true ↔ Expired cutoff name entry)
    (hcounted : ∀ name entry, rule.counted (name, entry) = true ↔ IsSnapshot name)
    (h : t.Sorted) (cutoff : Instant) :
    Cleaned (Expired cutoff) IsSnapshot t.find? (Table.find? · (rule.left cutoff t))
      (rule.count cutoff t) where
  gone name entry hentry hold := by
    rw [left, h.find?_filter, hentry]
    simp [Option.filter, (hexpired cutoff name entry).mpr hold]
  kept name hfresh := by
    rw [left, h.find?_filter]
    cases hentry : t.find? name with
    | none => rfl
    | some entry =>
      have hnot : ¬ rule.expired cutoff (name, entry) = true := fun hgone =>
        hfresh entry hentry ((hexpired cutoff name entry).mp hgone)
      simp [Option.filter, hnot]
  counted := by
    refine ⟨Table.keys (t.filter fun entry => rule.expired cutoff entry && rule.counted entry),
      (h.filter _).keys_nodup, by rw [Table.keys, List.length_map, count], ?_⟩
    intro name
    rw [Table.mem_keys_filter h]
    simp only [Bool.and_eq_true, hexpired, hcounted]
    constructor
    · rintro ⟨entry, hentry, hold, hsnapshot⟩
      exact ⟨hsnapshot, entry, hentry, hold⟩
    · rintro ⟨hsnapshot, entry, hentry, hold⟩
      exact ⟨entry, hentry, hold, hsnapshot⟩

/-- A store that cleans up the table it holds by a rule keeps to the laws. -/
theorem cleansUp (hremove : ∀ t, Table.Sorted t → ∀ cutoff,
      removeBefore (hold t) cutoff = (.ok (rule.count cutoff t), hold (rule.left cutoff t)))
    (hentry : ∀ t, held? (hold t) = (Table.find? · t))
    (hexpired : ∀ cutoff name entry,
      rule.expired cutoff (name, entry) = true ↔ Expired cutoff name entry)
    (hcounted : ∀ name entry, rule.counted (name, entry) = true ↔ IsSnapshot name)
    (h : t.Sorted) : CleansUp held? Expired IsSnapshot (hold t) where
  once cutoff := by
    refine ⟨_, _, hremove t h cutoff, ?_⟩
    rw [hentry, hentry]
    exact cleaned hexpired hcounted h cutoff
  again cutoff earlier count after hfirst hle := by
    rw [hremove t h] at hfirst
    obtain ⟨-, rfl⟩ := Prod.mk.inj hfirst
    rw [hremove _ (rule.sorted_left h), rule.left_of_left t hle, rule.count_of_left t hle]
  composed cutoff later count after hfirst hle := by
    rw [hremove t h] at hfirst
    obtain ⟨hcount, rfl⟩ := Prod.mk.inj hfirst
    obtain rfl := Except.ok.inj hcount
    refine ⟨_, _, hremove _ (rule.sorted_left h) later, ?_⟩
    rw [hremove t h, rule.count_add t hle, rule.left_left t hle]

end ExpiryRule

namespace MemoryStore

/-- In memory every snapshot expires by its last checkpoint. -/
def expiryRule : ExpiryRule Snapshot where
  expired cutoff entry := isStale cutoff entry.2
  counted _ := true
  expired_of_le := Instant.before_of_le

theorem removeBefore_eq_rule {t : Table Snapshot} (h : t.Sorted) (cancelled : Bool)
    (cutoff : Instant) :
    SnapshotStore.removeBefore (⟨t, cancelled⟩ : MemoryStore) cutoff =
      (.ok (expiryRule.count cutoff t), ⟨expiryRule.left cutoff t, cancelled⟩) := by
  have hcount : (staleIds t cutoff).length = expiryRule.count cutoff t := by
    rw [staleIds, Table.keys, List.length_map, ExpiryRule.count]
    simp [expiryRule, isStale]
  have hremove : SnapshotStore.removeBefore (⟨t, cancelled⟩ : MemoryStore) cutoff =
      (.ok (removeBefore ⟨t, cancelled⟩ cutoff).1, (removeBefore ⟨t, cancelled⟩ cutoff).2) := rfl
  rw [hremove, removeBefore_eq h, hcount]
  rfl

theorem cleansUp {store : MemoryStore} (h : store.snapshots.Sorted) :
    CleansUp (fun store runId => store.snapshots.find? runId)
      (fun cutoff _ s => s.lastCheckpoint.before cutoff = true) (fun _ => True) store := by
  have hremove : ∀ t, Table.Sorted t → ∀ cutoff,
      SnapshotStore.removeBefore (⟨t, store.cancelled⟩ : MemoryStore) cutoff =
        (.ok (expiryRule.count cutoff t), ⟨expiryRule.left cutoff t, store.cancelled⟩) :=
    fun t ht cutoff => removeBefore_eq_rule ht _ cutoff
  apply ExpiryRule.cleansUp hremove (fun t => rfl) _ _ h
  · intro cutoff runId s
    rfl
  · intro runId s
    simp [expiryRule]

end MemoryStore

open Snapshot (NamesSnapshot NamesTemporary)

/-- A file that was last changed before an instant. -/
def Node.ChangedBefore (cutoff : Instant) : Node → Prop
  | .file _ modified => modified.before cutoff = true
  | .folder _ => False

namespace FileStore

/-- In a folder the files of runs expire by their last change, and only snapshots are counted. -/
def expiryRule : ExpiryRule Node where
  expired cutoff entry := isStale cutoff entry.1 entry.2
  counted entry := (Snapshot.runIdOf? entry.1).isSome
  expired_of_le {cutoff later entry} hle hstale := by
    obtain ⟨name, node⟩ := entry
    cases node with
    | folder inner => simp [isStale] at hstale
    | file text modified =>
      obtain ⟨hname, hold⟩ := Bool.and_eq_true_iff.mp hstale
      exact Bool.and_eq_true_iff.mpr ⟨hname, Instant.before_of_le hle hold⟩

theorem isStale_iff {cutoff : Instant} {name : String} {node : Node} :
    isStale cutoff name node = true ↔
      (NamesSnapshot name ∨ NamesTemporary name) ∧ node.ChangedBefore cutoff := by
  cases node with
  | folder inner => simp [isStale, Node.ChangedBefore]
  | file text modified =>
    simp only [isStale, Bool.and_eq_true, Bool.or_eq_true, Snapshot.isSome_runIdOf?_iff,
      Snapshot.isTempName_iff, Node.ChangedBefore]

theorem cleansUp {store : FileStore} {entries : Folder} (hdir : store.dir ≠ "")
    (hsite : store.site = .folder entries) (h : entries.Sorted) :
    CleansUp nodeAt? (fun cutoff name node =>
      (NamesSnapshot name ∨ NamesTemporary name) ∧ node.ChangedBefore cutoff)
      NamesSnapshot store := by
  have hlisted : ∀ t, (⟨store.dir, .folder t, store.cancelled⟩ : FileStore).listed = .folder t := by
    intro t
    have hpath : store.dir.isEmpty = false := by simpa using hdir
    simp [listed, hpath]
  have hremove : ∀ t, Table.Sorted t → ∀ cutoff,
      SnapshotStore.removeBefore (⟨store.dir, .folder t, store.cancelled⟩ : FileStore) cutoff =
        (.ok (expiryRule.count cutoff t),
          ⟨store.dir, .folder (expiryRule.left cutoff t), store.cancelled⟩) :=
    fun t ht cutoff => removeBefore_eq (hlisted t) ht cutoff
  have hstore : store = ⟨store.dir, .folder entries, store.cancelled⟩ := by rw [← hsite]
  rw [hstore]
  apply ExpiryRule.cleansUp hremove (fun t => rfl) _ _ h
  · intro cutoff name node
    exact isStale_iff
  · intro name node
    exact Snapshot.isSome_runIdOf?_iff

theorem removeBefore_of_unlisted {store : FileStore} (h : store.dir = "" ∨ store.site = .absent)
    (cutoff : Instant) : SnapshotStore.removeBefore store cutoff = (.ok 0, store) := by
  apply removeBefore_of_absent
  rcases h with hdir | hsite
  · simp [listed, hdir]
  · rw [listed, hsite, ite_self]

end FileStore

/-- Cleaning up is exact, repeats without effect and composes, in memory and in a folder with a
path. Where there is no folder or it has no path, nothing is taken away; where something else
stands in its place, cleaning up fails and leaves it. -/
theorem cleanup_exact (memory : MemoryStore) (files : FileStore) :
    (memory.snapshots.Sorted →
      CleansUp (fun store runId => store.snapshots.find? runId)
        (fun cutoff _ s => s.lastCheckpoint.before cutoff = true) (fun _ => True) memory) ∧
    (∀ entries : Folder, files.dir ≠ "" → files.site = .folder entries → entries.Sorted →
      CleansUp FileStore.nodeAt? (fun cutoff name node =>
        (NamesSnapshot name ∨ NamesTemporary name) ∧ node.ChangedBefore cutoff)
        NamesSnapshot files) ∧
    (files.dir = "" ∨ files.site = .absent → ∀ cutoff, removeBefore files cutoff = (.ok 0, files)) ∧
    (files.dir ≠ "" → files.site = .blocked →
      ∀ cutoff, removeBefore files cutoff = (.error FileStore.notAFolder, files)) := by
  refine ⟨MemoryStore.cleansUp, fun entries => FileStore.cleansUp,
    FileStore.removeBefore_of_unlisted, ?_⟩
  intro hdir hsite cutoff
  have hlisted : files.listed = .blocked := by
    rw [FileStore.listed, hsite, if_neg (by simpa using hdir)]
  change files.removeBefore cutoff = _
  simp only [FileStore.removeBefore, hlisted]

namespace FileStore

/-- A folder of a run and what others have left there. -/
def stateFolder : FileStore := ⟨"state", .folder litteredFolder, false⟩

/-- The same folder without a path. -/
def pathless : FileStore := ⟨"", .folder litteredFolder, false⟩

end FileStore

open FileStore (begun litteredFolder stateFolder pathless)

theorem cleanup_exact_of_littered :
    (∃ count after,
      removeBefore (⟨[("r", begun)], false⟩ : MemoryStore) ⟨1, 0⟩ = (.ok count, after) ∧
      after.snapshots.find? "r" = none) ∧
    (∃ count after, removeBefore stateFolder ⟨1, 0⟩ = (.ok count, after) ∧
      after.nodeAt? "r.json" = none ∧ after.nodeAt? "r.json.tmp" = none ∧
      after.nodeAt? "notes.txt" = some (.file none ⟨0, 0⟩)) ∧
    removeBefore (⟨"state", .absent, false⟩ : FileStore) ⟨1, 0⟩ =
      (.ok 0, ⟨"state", .absent, false⟩) ∧
    removeBefore (⟨"state", .blocked, false⟩ : FileStore) ⟨1, 0⟩ =
      (.error FileStore.notAFolder, ⟨"state", .blocked, false⟩) := by
  obtain ⟨hmemory, hfolder, -, -⟩ := cleanup_exact ⟨[("r", begun)], false⟩ stateFolder
  obtain ⟨-, -, habsent, -⟩ := cleanup_exact .empty ⟨"state", .absent, false⟩
  obtain ⟨-, -, -, hblocked⟩ := cleanup_exact .empty ⟨"state", .blocked, false⟩
  refine ⟨?_, ?_, habsent (Or.inr rfl) _, hblocked (by decide) rfl _⟩
  · obtain ⟨count, after, hremove, hcleaned⟩ := (hmemory (List.pairwise_singleton _ _)).once ⟨1, 0⟩
    exact ⟨count, after, hremove, hcleaned.gone "r" begun rfl rfl⟩
  · obtain ⟨count, after, hremove, hcleaned⟩ :=
      (hfolder _ (by decide) rfl FileStore.sorted_littered).once ⟨1, 0⟩
    have hsnapshot : NamesSnapshot "r.json" := ⟨"r", rfl, rfl⟩
    have htemporary : NamesTemporary "r.json.tmp" := ⟨"r", rfl, rfl⟩
    have hforeign : ∀ node, stateFolder.nodeAt? "notes.txt" = some node →
        ¬ ((NamesSnapshot "notes.txt" ∨ NamesTemporary "notes.txt") ∧
          node.ChangedBefore ⟨1, 0⟩) := by
      rintro node hnode hstale
      obtain rfl : .file none ⟨0, 0⟩ = node := Option.some.inj hnode
      exact absurd (FileStore.isStale_iff.mpr hstale) (by decide +kernel)
    exact ⟨count, after, hremove,
      hcleaned.gone "r.json" (.file (some begun.render) ⟨0, 0⟩) rfl ⟨Or.inl hsnapshot, rfl⟩,
      hcleaned.gone "r.json.tmp" (.file (some "") ⟨0, 0⟩) rfl ⟨Or.inr htemporary, rfl⟩,
      hcleaned.kept "notes.txt" hforeign⟩

/-- In a folder without a path an old snapshot can be read, and outlives every cleanup. -/
theorem pathless_snapshot_stays :
    pathless.read "r" = .ok (some begun) ∧
    removeBefore pathless ⟨1, 0⟩ = (.ok 0, pathless) ∧
    ¬ CleansUp FileStore.nodeAt? (fun cutoff name node =>
      (NamesSnapshot name ∨ NamesTemporary name) ∧ node.ChangedBefore cutoff)
      NamesSnapshot pathless := by
  have hremove : removeBefore pathless ⟨1, 0⟩ = (.ok 0, pathless) :=
    FileStore.removeBefore_of_unlisted (Or.inl rfl) ⟨1, 0⟩
  have hnode : pathless.nodeAt? "r.json" = some (.file (some begun.render) ⟨0, 0⟩) := rfl
  refine ⟨FileStore.read_littered "", hremove, ?_⟩
  intro hlaws
  obtain ⟨count, after, hafter, hcleaned⟩ := hlaws.once ⟨1, 0⟩
  rw [hremove] at hafter
  obtain ⟨-, rfl⟩ := Prod.mk.inj hafter
  have hgone := hcleaned.gone "r.json" _ hnode ⟨Or.inl ⟨"r", rfl, rfl⟩, rfl⟩
  rw [hnode] at hgone
  simp at hgone

end Runbook
