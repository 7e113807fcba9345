import Runbook.Proofs.FileContract
import Runbook.Proofs.WriteFaults

/-!
Checkpoints of runs whose files have been damaged. Any text in the place of a snapshot gives way to
the new one, whether it can be read or not, and only what can be read has a say in the new
snapshot: it keeps the time at which the run was started. A file that is no text at all is another
matter. Reading it is not answered as reading a broken snapshot is, and the run cannot be saved.
-/

namespace Runbook.FileStore

open Snapshot
open SnapshotStore (find previous save permission)
open Snapshot.WriteStep (Blocked)

variable {store : FileStore} {entries : Folder} {runId : String} {modified : Instant}

theorem find_of_folder (hsite : store.site = .folder entries) (hid : RunId.check runId = .ok ()) :
    find store runId = readNode (store.path runId) (entries.find? (fileName runId)) := by
  rw [LawfulStore.find_eq]
  exact read_of_entries (by rw [hsite, entriesToWrite]) hid

theorem previous_of_text (hsite : store.site = .folder entries)
    (hid : RunId.check runId = .ok ()) {old : String}
    (hfile : entries.find? (fileName runId) = some (.file (some old) modified)) :
    previous store runId = .ok (Snapshot.read old) := by
  rw [previous, find_of_folder hsite hid, hfile, readNode]
  cases Snapshot.read old <;> rfl

theorem previous_of_undecodable (hsite : store.site = .folder entries)
    (hid : RunId.check runId = .ok ())
    (hfile : entries.find? (fileName runId) = some (.file none modified)) :
    previous store runId = .error (.io "the file is not valid UTF-8") := by
  rw [previous, find_of_folder hsite hid, hfile, readNode]

/-- What is left of a store when a run has been checkpointed over an old text. -/
structure Overwritten (store : FileStore) (ctx : RunContext) (conversation : Conversation)
    (now : Instant) (old : String) (store' : FileStore) : Prop where
  held : store'.nodeAt? (fileName ctx.runId) =
    some (.file (some (capture ctx conversation (Snapshot.read old) now).render) now)
  kept : ∀ earlier, Snapshot.read old = some earlier →
    (capture ctx conversation (Snapshot.read old) now).startedAt = earlier.startedAt
  fresh : Snapshot.read old = none →
    (capture ctx conversation (Snapshot.read old) now).startedAt = ctx.startedAt
  swept : store'.nodeAt? (tempName ctx.runId) = none
  others : ∀ name, name ≠ fileName ctx.runId → name ≠ tempName ctx.runId →
    store'.nodeAt? name = store.nodeAt? name

theorem overwritten_withSnapshot (hentries : entriesToWrite store.site = .ok entries)
    (ctx : RunContext) (conversation : Conversation) (now : Instant) (old : String) :
    Overwritten store ctx conversation now old
      { store with
        site := .folder
          (withSnapshot entries (capture ctx conversation (Snapshot.read old) now) now) } := by
  set s := capture ctx conversation (Snapshot.read old) now
  refine ⟨find?_withSnapshot_self entries s now, ?_, ?_, ?_, ?_⟩
  · intro earlier hearlier
    rw [capture, hearlier, Option.map_some, Option.getD_some]
  · intro hnone
    rw [capture, hnone, Option.map_none, Option.getD_none]
  · have hne := tempName_ne_fileName ctx.runId ctx.runId
    exact (Table.find?_insert ..).trans
      ((if_neg hne).trans ((Table.find?_erase ..).trans (if_pos rfl)))
  · intro name hname htemp
    rw [nodeAt?_of_entries hentries]
    exact (Table.find?_insert ..).trans
      ((if_neg hname).trans ((Table.find?_erase ..).trans (if_neg htemp)))

/-- A checkpoint takes the place of any text, and of nothing that is no text. -/
theorem damaged_snapshot (hsite : store.site = .folder entries) (hlive : store.cancelled = false)
    {ctx : RunContext} (hid : RunId.check ctx.runId = .ok ())
    (hfree : ¬ Blocked entries (tempName ctx.runId)) {content : Option String}
    (hfile : entries.find? (fileName ctx.runId) = some (.file content modified))
    (conversation : Conversation) (now : Instant) :
    (∀ old, content = some old → ∃ store', save store ctx conversation now = (.ok (), store') ∧
      Overwritten store ctx conversation now old store') ∧
    (content = none → save store ctx conversation now =
      (.error (.io "the file is not valid UTF-8"), store)) := by
  refine ⟨?_, ?_⟩
  · rintro old rfl
    have hentries : entriesToWrite store.site = .ok entries := by rw [hsite, entriesToWrite]
    have hp : permission store (capture ctx conversation (Snapshot.read old) now) = .ok () :=
      SnapshotStore.permission_eq_ok_iff.mpr ⟨hid, hlive⟩
    have hregular : ¬ Blocked entries (fileName ctx.runId) := by
      rintro ⟨inner, hinner⟩
      rw [hfile] at hinner
      simp at hinner
    refine ⟨_, ?_, overwritten_withSnapshot hentries ctx conversation now old⟩
    rw [save, previous_of_text hsite hid hfile]
    exact write_of_unblocked hentries hfree hregular hp now
  · rintro rfl
    rw [save, previous_of_undecodable hsite hid hfile]

/-- A store with one file in the place of a snapshot. -/
def damaged (content : Option String) : FileStore :=
  ⟨"state", .folder [(fileName "r", .file content ⟨0, 0⟩)], false⟩

theorem damaged_snapshot_of_broken :
    Snapshot.read "\x7bnot json" = none ∧
    ∃ store', save (damaged (some "\x7bnot json")) (.bare "r") [] ⟨5, 0⟩ = (.ok (), store') ∧
      store'.nodeAt? "r.json" = some (.file (some (capture (.bare "r") [] none ⟨5, 0⟩).render)
        ⟨5, 0⟩) := by
  have hbroken : Snapshot.read "\x7bnot json" = none := by decide +kernel
  have hfree : ¬ Blocked [(fileName "r", .file (some "\x7bnot json") ⟨0, 0⟩)] (tempName "r") := by
    rintro ⟨inner, hinner⟩
    simp [Table.find?, fileName, tempName] at hinner
  obtain ⟨store', hsave, hover⟩ :
      ∃ store', save (damaged (some "\x7bnot json")) (.bare "r") [] ⟨5, 0⟩ = (.ok (), store') ∧
        Overwritten (damaged (some "\x7bnot json")) (.bare "r") [] ⟨5, 0⟩ "\x7bnot json" store' :=
    (damaged_snapshot rfl rfl rfl hfree rfl [] ⟨5, 0⟩).1 _ rfl
  have hheld := hover.held
  rw [hbroken] at hheld
  exact ⟨hbroken, store', hsave, hheld⟩

/-- A run whose file is no text is not saved, and its file stays. -/
theorem bytes_block_checkpoint :
    RunId.check "r" = .ok () ∧
    (damaged none).nodeAt? "r.json" = some (.file none ⟨0, 0⟩) ∧
    save (damaged none) (.bare "r") [] ⟨5, 0⟩ =
      (.error (.io "the file is not valid UTF-8"), damaged none) :=
  ⟨rfl, rfl, rfl⟩

end Runbook.FileStore
