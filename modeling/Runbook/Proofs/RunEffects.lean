import Runbook.Proofs.StoreOperations

/-!
What a call makes of the snapshot of one run, in a sound store whose token is not cancelled and
which gives back what is written to it. Calls about other runs make nothing of it; a clean-up
keeps the snapshot or removes it.
-/

namespace Runbook

open SnapshotStore (read write find previous update Change)
open LawfulStore (Sound Keeps Retains)

namespace Operation

/-- What an operation makes of a run's snapshot. What a clean-up removes depends on the store and
is left out here. -/
def effect (runId : String) (now : Instant) (found : Option Snapshot) :
    Operation → Option Snapshot
  | save ctx conversation =>
      if ctx.runId = runId then some (.capture ctx conversation found now) else found
  | complete id step => if id = runId then found.map (·.completeStep step now) else found
  | fail id name error => if id = runId then found.map (·.failStep name error now) else found
  | mark id status => if id = runId then found.map (·.setStatus status now) else found
  | delete id => if id = runId then none else found
  | _ => found

variable {σ : Type} [SnapshotStore σ] [Cancellable σ] [LawfulStore σ]
  {store : σ} {runId : String} {found : Option Snapshot}

theorem written?_save {ctx : RunContext} (hread : read store ctx.runId = .ok found)
    (conversation : Conversation) (now : Instant) :
    (save ctx conversation).written? store now = some (.capture ctx conversation found now) := by
  rw [written?, LawfulStore.previous_of_read hread]
  rfl

theorem held?_of_read (hread : read store runId = .ok found) : held? store runId = found :=
  held?_of_find ((LawfulStore.find_eq store runId).trans hread)

theorem read_save (h : Sound store) (hlive : isCancelled store = false)
    (hread : read store runId = .ok found) (ctx : RunContext) (conversation : Conversation)
    (now : Instant) (hs : ∀ s, (save ctx conversation).written? store now = some s → Retains σ s) :
    read (SnapshotStore.save store ctx conversation now).2 runId =
      .ok ((save ctx conversation).effect runId now found) := by
  have hcapture : ∀ p, previous store ctx.runId = .ok p →
      SnapshotStore.save store ctx conversation now =
        write store (.capture ctx conversation p now) now := by
    intro p hp
    rw [SnapshotStore.save, hp]
  by_cases hid : ctx.runId = runId
  · have hp : previous store ctx.runId = .ok found :=
      LawfulStore.previous_of_read (hid ▸ hread)
    have hvalid : RunId.check ctx.runId = .ok () := hid ▸ LawfulStore.check_of_read hread
    obtain ⟨store', hwrite, hkeeps⟩ := LawfulStore.write_of_live h
      (s := .capture ctx conversation found now) hvalid hlive now
    have hretains := hs _ (written?_save (hid ▸ hread) conversation now)
    rw [hcapture found hp, hwrite, effect, if_pos hid, ← hid]
    exact (LawfulStore.read_of_keeps_iff hkeeps).mpr hretains
  · rw [effect, if_neg hid]
    cases hp : previous store ctx.runId with
    | error e =>
      rw [SnapshotStore.save, hp]
      exact hread
    | ok p =>
      rw [hcapture p hp, LawfulStore.read_write_of_ne store now (Ne.symm hid)]
      exact hread

/-- Changing the snapshot of a run leaves the snapshots of all others alone. -/
theorem read_update (h : Sound store) (hlive : isCancelled store = false)
    (hread : read store runId = .ok found) (id : String) (change : Snapshot → Snapshot)
    (hrun : ∀ s, (change s).runId = s.runId) (now : Instant)
    (hs : ∀ s, (held? store id).map change = some s → Retains σ s) :
    read (update store id change now).2 runId =
      .ok (if id = runId then found.map change else found) := by
  by_cases hid : id = runId
  · subst hid
    have hfind : find store id = .ok found := (LawfulStore.find_eq store id).trans hread
    rw [if_pos rfl]
    cases found with
    | none =>
      rw [SnapshotStore.update_of_none hfind]
      exact hread
    | some s =>
      have hown : (change s).runId = id := (hrun s).trans (LawfulStore.runId_of_read h hread)
      have hvalid : RunId.check (change s).runId = .ok () :=
        hown ▸ LawfulStore.check_of_read hread
      obtain ⟨store', hwrite, hkeeps⟩ := LawfulStore.write_of_live h hvalid hlive now
      have hretains := hs _ (by rw [held?_of_read hread, Option.map_some])
      rw [SnapshotStore.update_of_some hfind, hwrite, Option.map_some]
      have hkept := (LawfulStore.read_of_keeps_iff hkeeps).mpr hretains
      rw [hown] at hkept
      exact hkept
  · rw [if_neg hid]
    cases hfind : find store id with
    | error e =>
      rw [SnapshotStore.update_of_error hfind]
      exact hread
    | ok other =>
      cases other with
      | none =>
        rw [SnapshotStore.update_of_none hfind]
        exact hread
      | some s =>
        have hfound : read store id = .ok (some s) := (LawfulStore.find_eq store id).symm.trans hfind
        have hown : (change s).runId = id := (hrun s).trans (LawfulStore.runId_of_read h hfound)
        have hne : runId ≠ (change s).runId := by
          rw [hown]
          exact Ne.symm hid
        rw [SnapshotStore.update_of_some hfind]
        exact (LawfulStore.read_write_of_ne store now hne).trans hread

theorem read_delete (h : Sound store) (hread : read store runId = .ok found) (id : String) :
    read (SnapshotStore.delete store id).2 runId =
      .ok (if id = runId then none else found) := by
  rcases RunId.check_ok_or_error id with hvalid | ⟨reason, hinvalid⟩
  · obtain ⟨existed, store', hdelete, -, hgone, hother⟩ := LawfulStore.delete_ok h hvalid
    rw [hdelete]
    by_cases hid : id = runId
    · rw [if_pos hid, ← hid]
      exact hgone
    · rw [if_neg hid]
      exact (hother runId (Ne.symm hid)).trans hread
  · have hid : id ≠ runId := by
      rintro rfl
      rw [LawfulStore.check_of_read hread] at hinvalid
      simp at hinvalid
    rw [LawfulStore.delete_error hinvalid, if_neg hid]
    exact hread

/-- What is read of a run after an operation, unless a clean-up has removed its snapshot. -/
theorem read_perform (h : Sound store) (hlive : isCancelled store = false)
    (hread : read store runId = .ok found) (now : Instant) (operation : Operation)
    (hs : ∀ s, operation.written? store now = some s → Retains σ s) :
    read (operation.perform store now).2 runId = .ok (operation.effect runId now found) ∨
      (∃ cutoff, operation = .removeBefore cutoff) ∧
        read (operation.perform store now).2 runId = .ok none := by
  cases operation with
  | save ctx conversation => exact Or.inl (read_save h hlive hread ctx conversation now hs)
  | complete id step =>
    exact Or.inl (read_update h hlive hread id (·.completeStep step now) (fun s => rfl) now hs)
  | fail id name error =>
    exact Or.inl (read_update h hlive hread id (·.failStep name error now) (fun s => rfl) now hs)
  | mark id status =>
    exact Or.inl (read_update h hlive hread id (·.setStatus status now) (fun s => rfl) now hs)
  | load id => exact Or.inl hread
  | compatible id text => exact Or.inl hread
  | prepare id text force => exact Or.inl hread
  | list => exact Or.inl hread
  | delete id => exact Or.inl (read_delete h hread id)
  | removeBefore cutoff =>
    obtain ⟨count, store', hremoved, hreads⟩ := LawfulStore.removeBefore_ok h cutoff
    have hafter : ((removeBefore cutoff).perform store now).2 = store' := by
      simp only [perform, hremoved, Prod.map_snd, id]
    rw [hafter]
    rcases hreads runId with hkept | hgone
    · exact Or.inl (hkept.trans hread)
    · exact Or.inr ⟨⟨cutoff, rfl⟩, hgone⟩

end Operation

namespace Call

variable {σ : Type} [SnapshotStore σ] [Cancellable σ] [LawfulStore σ] {store : σ}

theorem sound_run (h : Sound store) (call : Call) : Sound (call.run store).2 := by
  have hset := LawfulStore.sound_set h call.cancelled
  rcases run_snd store call with hsame | ⟨change, hchange, -⟩
  · rw [hsame]
    exact hset
  · rw [hchange]
    exact LawfulStore.sound_apply hset call.now change

theorem sound_runAll (h : Sound store) (calls : List Call) : Sound (runAll store calls) := by
  induction calls generalizing store with
  | nil => exact h
  | cons call rest ih => exact ih (sound_run h call)

/-- What is read of a run after a call that is not called off. -/
theorem read_run (h : Sound store) {call : Call} (hlive : call.cancelled = false)
    {runId : String} {found : Option Snapshot} (hread : read store runId = .ok found)
    (hs : ∀ s, call.written? store = some s → Retains σ s) :
    read (call.run store).2 runId = .ok (call.operation.effect runId call.now found) ∨
      (∃ cutoff, call.operation = .removeBefore cutoff) ∧
        read (call.run store).2 runId = .ok none := by
  have hset := LawfulStore.sound_set h call.cancelled
  apply Operation.read_perform hset _ _ call.now call.operation hs
  · rw [LawfulStore.isCancelled_set, hlive]
  · rw [LawfulStore.read_set, hread]

/-- What a call writes that is not called off can be read after it. -/
theorem read_of_written (h : Sound store) {call : Call} (hlive : call.cancelled = false)
    {s : Snapshot} (hwritten : call.written? store = some s)
    (hid : RunId.check s.runId = .ok ()) (hs : Retains σ s) :
    read (call.run store).2 s.runId = .ok (some s) := by
  have hset := LawfulStore.sound_set h call.cancelled
  have htoken : isCancelled (setCancelled call.cancelled store) = false := by
    rw [LawfulStore.isCancelled_set, hlive]
  obtain ⟨store', hwrite, hkeeps⟩ := LawfulStore.write_of_live hset hid htoken call.now
  have hrun : (call.run store).2 = store' := by
    rw [run, Operation.perform_snd, Operation.change?_of_written hwritten, Option.elim_some,
      Change.apply, hwrite]
  rw [hrun]
  exact (LawfulStore.read_of_keeps_iff hkeeps).mpr hs

end Call

end Runbook
