import Runbook.Proofs.SnapshotNames
import Runbook.Proofs.SortedTables

/-!
What writing a snapshot does to its folder. Up to the last step only the temporary file is
touched, and a step that fails never touches anything else, so that whatever goes wrong every
other file is left as it was. When nothing goes wrong the text stands under the final name and
the temporary file is gone.
-/

namespace Runbook.Snapshot.WriteStep

/-- A folder stands where a file is to be written. -/
def Blocked (entries : Folder) (name : String) : Prop :=
  ∃ inner, entries.find? name = some (.folder inner)

theorem putFile_eq_ok_iff {entries entries' : Folder} {name : String} {node : Node} :
    putFile entries name node = .ok entries' ↔
      ¬ Blocked entries name ∧ entries' = entries.insert name node := by
  unfold putFile
  constructor
  · intro h
    split at h
    · simp at h
    · next hfree => exact ⟨fun ⟨inner, hinner⟩ => hfree inner hinner, (Except.ok.inj h).symm⟩
  · rintro ⟨hfree, rfl⟩
    split
    · next inner hinner => exact absurd ⟨inner, hinner⟩ hfree
    · rfl

variable {fault : WriteStep → Option Error} {runId text : String} {now : Instant}

/-- No step but the last one touches another file than the temporary one. -/
theorem find?_run {entries entries' : Folder} {step : WriteStep} (hstep : step ≠ rename)
    (h : run runId text now entries step = .ok entries') {name : String}
    (hname : name ≠ tempName runId) : entries'.find? name = entries.find? name := by
  cases step with
  | create =>
    obtain ⟨-, rfl⟩ := putFile_eq_ok_iff.mp h
    rw [Table.find?_insert, if_neg hname]
  | fill =>
    obtain rfl := Except.ok.inj h
    rw [Table.find?_insert, if_neg hname]
  | sync => rw [← Except.ok.inj h]
  | confirm => rw [← Except.ok.inj h]
  | rename => exact absurd rfl hstep

/-- The last step touches the temporary file and the one of the run. -/
theorem find?_rename {entries entries' : Folder}
    (h : run runId text now entries rename = .ok entries') {name : String}
    (htemp : name ≠ tempName runId) (hfinal : name ≠ fileName runId) :
    entries'.find? name = entries.find? name := by
  simp only [run] at h
  split at h
  · simp at h
  · next node hnode =>
    obtain ⟨-, rfl⟩ := putFile_eq_ok_iff.mp h
    rw [Table.find?_insert, if_neg hfinal, Table.find?_erase, if_neg htemp]

theorem find?_undo (entries : Folder) (step : WriteStep) {name : String}
    (hname : name ≠ tempName runId) : (undo runId entries step).find? name =
      entries.find? name := by
  cases step with
  | create | fill | sync => rfl
  | confirm | rename => exact (Table.find?_erase _ _ _).trans (if_neg hname)

/-- Steps of which only the last one may be the renaming leave all other files alone when they
fail, wherever they fail. -/
theorem find?_runAll_of_error {steps : List WriteStep}
    (hlast : ∀ step ∈ steps.dropLast, step ≠ rename) {entries entries' : Folder} {e : Error}
    (h : runAll fault runId text now steps entries = (.error e, entries')) {name : String}
    (hname : name ≠ tempName runId) : entries'.find? name = entries.find? name := by
  induction steps generalizing entries with
  | nil => simp [runAll] at h
  | cons step rest ih =>
    simp only [runAll] at h
    split at h
    · obtain ⟨-, rfl⟩ := Prod.mk.inj h
      exact find?_undo entries step hname
    · next mid hmid =>
      have hran : run runId text now entries step = .ok mid := by
        cases hf : fault step with
        | none => simpa [hf] using hmid
        | some other => simp [hf] at hmid
      cases rest with
      | nil => simp [runAll] at h
      | cons next others =>
        have hstep : step ≠ rename := hlast step (by simp)
        have hrest : ∀ other ∈ (next :: others).dropLast, other ≠ rename :=
          fun other hother => hlast other (by simp [hother])
        rw [ih hrest h, find?_run hstep hran hname]

theorem runAll_cons_eq_ok_iff {step : WriteStep} {rest : List WriteStep}
    {entries entries' : Folder} :
    runAll fault runId text now (step :: rest) entries = (.ok (), entries') ↔
      fault step = none ∧ ∃ mid, run runId text now entries step = .ok mid ∧
        runAll fault runId text now rest mid = (.ok (), entries') := by
  simp only [runAll]
  cases hf : fault step with
  | some e => simp
  | none =>
    cases hran : run runId text now entries step with
    | error e => simp
    | ok mid => simp

/-- Writing succeeds unless something is made to fail or a folder is in the way, and then this
is what it leads to. -/
theorem runAll_all_eq_ok_iff {entries entries' : Folder} :
    runAll fault runId text now all entries = (.ok (), entries') ↔
      (∀ step, fault step = none) ∧ ¬ Blocked entries (tempName runId) ∧
        ¬ Blocked entries (fileName runId) ∧
        entries' = (entries.erase (tempName runId)).insert (fileName runId)
          (.file (some text) now) := by
  have hne : fileName runId ≠ tempName runId := Ne.symm (tempName_ne_fileName runId runId)
  have hfilled : ∀ node, Table.find? (tempName runId)
      ((entries.insert (tempName runId) node).insert (tempName runId) (.file (some text) now)) =
        some (.file (some text) now) := by
    intro node
    rw [Table.find?_insert, if_pos rfl]
  have hcleared : ∀ node, Table.erase (tempName runId)
      ((entries.insert (tempName runId) node).insert (tempName runId) (.file (some text) now)) =
        entries.erase (tempName runId) := by
    intro node
    rw [Table.erase_insert, Table.erase_insert]
  have hblocked : Blocked (entries.erase (tempName runId)) (fileName runId) ↔
      Blocked entries (fileName runId) := by
    simp only [Blocked, Table.find?_erase, if_neg hne]
  unfold all
  simp only [runAll_cons_eq_ok_iff]
  constructor
  · rintro ⟨hcreate, made, hmade, hfill, filled, hran, hsync, synced, hkept, hconfirm, confirmed,
      hkept', hrename, renamed, hrenamed, hend⟩
    obtain ⟨htemp, rfl⟩ := putFile_eq_ok_iff.mp hmade
    obtain rfl := Except.ok.inj hran
    obtain rfl := Except.ok.inj hkept
    obtain rfl := Except.ok.inj hkept'
    simp only [run, hfilled, hcleared] at hrenamed
    obtain ⟨hfinal, rfl⟩ := putFile_eq_ok_iff.mp hrenamed
    refine ⟨?_, htemp, fun h => hfinal (hblocked.mpr h), (Prod.mk.inj hend).2.symm⟩
    intro step
    cases step <;> assumption
  · rintro ⟨hfault, htemp, hfinal, rfl⟩
    refine ⟨hfault _, _, putFile_eq_ok_iff.mpr ⟨htemp, rfl⟩, hfault _, _, rfl, hfault _, _, rfl,
      hfault _, _, rfl, hfault _, _, ?_, rfl⟩
    simp only [run, hfilled, hcleared]
    exact putFile_eq_ok_iff.mpr ⟨fun h => hfinal (hblocked.mp h), rfl⟩

end Runbook.Snapshot.WriteStep
