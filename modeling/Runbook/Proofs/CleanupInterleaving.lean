import Runbook.Proofs.FileWriting
import Runbook.Proofs.FolderSweep
import Runbook.Proofs.MemoryContract
import Runbook.Proofs.SnapshotText
import Runbook.Proofs.StoreOperations

/-!
A cleanup among tasks that write checkpoints. It looks for what is stale and removes later, name
by name, what it has seen; it does not look again. Between the two any task may take its turn.
What a cleanup removes has therefore been stale once, and is stale still unless its run has been
written in between. For a folder stale means that the file is old, whatever its text says.
-/

namespace Runbook

/-- A store as a cleanup and the writers of checkpoints see it: entries under names, with a
writer's work cut into the steps that nobody can interrupt. -/
class SharedStore (σ : Type) (ε τ : outParam Type) where
  stored? : σ → String → Option ε
  /-- Removes an entry, if it can be removed, and counts it. -/
  discard : Nat → σ → String → Nat × σ
  /-- One step of a writer. -/
  act : σ → τ → σ
  /-- A step may change the entry under a name. -/
  Touches : τ → String → Prop
  Sound : σ → Prop
  stored?_of_discard : ∀ {count store other name e},
    stored? (discard count store other).2 name = some e → stored? store name = some e
  stored?_discard_of_ne : ∀ {count store other name}, name ≠ other →
    stored? (discard count store other).2 name = stored? store name
  stored?_act : ∀ {store task name}, ¬ Touches task name →
    stored? (act store task) name = stored? store name
  sound_discard : ∀ {count store name}, Sound store → Sound (discard count store name).2
  sound_act : ∀ {store task}, Sound store → Sound (act store task)

open SharedStore (stored? Touches)

/-- A cleanup under way. -/
structure Cleanup (σ : Type) where
  store : σ
  /-- The looks that are still to be taken. Each tells what it finds stale. -/
  looks : List (σ → List String)
  /-- What the last look has found and has not been removed yet. -/
  doomed : List String
  count : Nat

/-- Whose turn it is. -/
inductive Turn (τ : Type)
  | sweep
  | task (task : τ)

theorem Turn.mem_of_rest {τ : Type} {tasks : List τ} {first rest : List (Turn τ)}
    (h : .sweep :: tasks.map .task = first ++ .sweep :: rest) {task : τ}
    (hmem : .task task ∈ rest) : task ∈ tasks := by
  have hturn : Turn.task task ∈ Turn.sweep :: tasks.map .task := by
    rw [h]
    exact List.mem_append_right _ (List.mem_cons_of_mem _ hmem)
  simpa using hturn

namespace Cleanup

variable {σ ε τ : Type} [SharedStore σ ε τ]

/-- The next step of the cleanup: it removes something doomed or, with nothing left to remove,
looks for more. -/
def sweep (c : Cleanup σ) : Cleanup σ :=
  match c.doomed, c.looks with
  | name :: doomed, _ =>
      let (count, store) := SharedStore.discard c.count c.store name
      { c with store, doomed, count }
  | [], look :: looks => { c with looks, doomed := look c.store }
  | [], [] => c

def turn (c : Cleanup σ) : Turn τ → Cleanup σ
  | .sweep => c.sweep
  | .task task => { c with store := SharedStore.act c.store task }

def run (c : Cleanup σ) (schedule : List (Turn τ)) : Cleanup σ := schedule.foldl turn c

/-- The next step of the cleanup is a look, and it finds something stale under a name. -/
def Finds (c : Cleanup σ) (name : String) : Prop :=
  c.doomed = [] ∧ ∃ look ∈ c.looks.head?, name ∈ look c.store

theorem run_append (c : Cleanup σ) (first rest : List (Turn τ)) :
    c.run (first ++ rest) = (c.run first).run rest := List.foldl_append

theorem run_snoc (c : Cleanup σ) (schedule : List (Turn τ)) (turn : Turn τ) :
    c.run (schedule ++ [turn]) = (c.run schedule).turn turn := run_append c schedule [turn]

/-- What one step of the cleanup can do. -/
theorem sweep_cases (c : Cleanup σ) :
    (∃ name doomed, c.doomed = name :: doomed ∧
      c.sweep = ⟨(SharedStore.discard c.count c.store name).2, c.looks, doomed,
        (SharedStore.discard c.count c.store name).1⟩) ∨
    (∃ look looks, c.doomed = [] ∧ c.looks = look :: looks ∧
      c.sweep = ⟨c.store, looks, look c.store, c.count⟩) ∨
    c.doomed = [] ∧ c.looks = [] ∧ c.sweep = c := by
  obtain ⟨store, looks, doomed, count⟩ := c
  cases doomed with
  | cons name doomed => exact Or.inl ⟨name, doomed, rfl, rfl⟩
  | nil =>
    cases looks with
    | cons look looks => exact Or.inr (Or.inl ⟨look, looks, rfl, rfl, rfl⟩)
    | nil => exact Or.inr (Or.inr ⟨rfl, rfl, rfl⟩)

theorem looks_turn (c : Cleanup σ) (turn : Turn τ) : (c.turn turn).looks <:+ c.looks := by
  cases turn with
  | task task => exact List.suffix_rfl
  | sweep =>
    change c.sweep.looks <:+ c.looks
    obtain ⟨name, doomed, -, heq⟩ | ⟨look, looks, -, hlooks, heq⟩ | ⟨-, -, heq⟩ := c.sweep_cases
    · have hsame : c.sweep.looks = c.looks := by rw [heq]
      exact ⟨[], hsame⟩
    · rw [heq, hlooks]
      exact List.suffix_cons look looks
    · have hsame : c.sweep.looks = c.looks := by rw [heq]
      exact ⟨[], hsame⟩

theorem sound_turn {c : Cleanup σ} (h : SharedStore.Sound c.store) (turn : Turn τ) :
    SharedStore.Sound (c.turn turn).store := by
  cases turn with
  | task task => exact SharedStore.sound_act h
  | sweep =>
    change SharedStore.Sound c.sweep.store
    obtain ⟨name, doomed, -, heq⟩ | ⟨look, looks, -, -, heq⟩ | ⟨-, -, heq⟩ := c.sweep_cases
    · rw [heq]
      exact SharedStore.sound_discard h
    · rw [heq]
      exact h
    · rw [heq]
      exact h

/-- What is doomed after a turn was doomed before, or the turn was a look that found it. -/
theorem mem_doomed_turn {c : Cleanup σ} {turn : Turn τ} {name : String}
    (h : name ∈ (c.turn turn).doomed) : name ∈ c.doomed ∨ turn = .sweep ∧ c.Finds name := by
  cases turn with
  | task task => exact Or.inl h
  | sweep =>
    change name ∈ c.sweep.doomed at h
    obtain ⟨head, doomed, hdoomed, heq⟩ | ⟨look, looks, hdoomed, hlooks, heq⟩ | ⟨-, -, heq⟩ :=
      c.sweep_cases
    · rw [heq] at h
      exact Or.inl (hdoomed ▸ List.mem_cons_of_mem head h)
    · rw [heq] at h
      exact Or.inr ⟨rfl, hdoomed, look, by rw [hlooks]; rfl, h⟩
    · rw [heq] at h
      exact Or.inl h

/-- A turn that does not touch a name brings no new entry under it. -/
theorem stored?_of_turn {c : Cleanup σ} {turn : Turn τ} {name : String} {e : ε}
    (htouch : ∀ task, turn = .task task → ¬ Touches σ task name)
    (h : stored? (c.turn turn).store name = some e) : stored? c.store name = some e := by
  cases turn with
  | task task => exact (SharedStore.stored?_act (htouch task rfl)).symm.trans h
  | sweep =>
    change stored? c.sweep.store name = some e at h
    obtain ⟨head, doomed, -, heq⟩ | ⟨look, looks, -, -, heq⟩ | ⟨-, -, heq⟩ := c.sweep_cases
    · rw [heq] at h
      exact SharedStore.stored?_of_discard h
    · rwa [heq] at h
    · rwa [heq] at h

/-- A step of the cleanup takes nothing away that is not doomed. -/
theorem mem_doomed_of_taken {c : Cleanup σ} {name : String} {e : ε}
    (hbefore : stored? c.store name = some e) (hafter : stored? c.sweep.store name = none) :
    name ∈ c.doomed := by
  obtain ⟨head, doomed, hdoomed, heq⟩ | ⟨look, looks, -, -, heq⟩ | ⟨-, -, heq⟩ := c.sweep_cases
  · rw [heq] at hafter
    by_contra hnot
    have hne : name ≠ head := fun hhead => hnot (by rw [hdoomed, hhead]; exact List.mem_cons_self)
    rw [SharedStore.stored?_discard_of_ne hne, hbefore] at hafter
    simp at hafter
  · rw [heq, hbefore] at hafter
    simp at hafter
  · rw [heq, hbefore] at hafter
    simp at hafter

/-- A cleanup that has not begun, whose looks find nothing but stale entries. -/
structure Fresh (start : Cleanup σ) (stale : String → ε → Bool) : Prop where
  sound : SharedStore.Sound start.store
  idle : start.doomed = []
  looks : ∀ look ∈ start.looks, ∀ store, SharedStore.Sound store → ∀ name ∈ look store,
    ∃ e, stored? store name = some e ∧ stale name e = true

/-- In the course of a schedule the cleanup has found a stale entry under a name, and unless a
task has touched the name since, no other entry stands there. -/
def FoundStale (start : Cleanup σ) (stale : String → ε → Bool) (schedule : List (Turn τ))
    (name : String) : Prop :=
  ∃ first rest old, schedule = first ++ .sweep :: rest ∧ (start.run first).Finds name ∧
    stored? (start.run first).store name = some old ∧ stale name old = true ∧
    ((∀ task, .task task ∈ rest → ¬ Touches σ task name) →
      ∀ e, stored? (start.run schedule).store name = some e → e = old)

variable {start : Cleanup σ} {stale : String → ε → Bool}

theorem sound_run (h : SharedStore.Sound start.store) (schedule : List (Turn τ)) :
    SharedStore.Sound (start.run schedule).store := by
  induction schedule using List.reverseRecOn with
  | nil => exact h
  | append_singleton schedule turn ih =>
    rw [run_snoc]
    exact sound_turn ih turn

theorem looks_run (start : Cleanup σ) (schedule : List (Turn τ)) :
    (start.run schedule).looks <:+ start.looks := by
  induction schedule using List.reverseRecOn with
  | nil => exact List.suffix_rfl
  | append_singleton schedule turn ih =>
    rw [run_snoc]
    exact (looks_turn _ turn).trans ih

theorem FoundStale.snoc {schedule : List (Turn τ)} {name : String}
    (h : start.FoundStale stale schedule name) (turn : Turn τ) :
    start.FoundStale stale (schedule ++ [turn]) name := by
  obtain ⟨first, rest, old, rfl, hfinds, hold, hstale, hsame⟩ := h
  refine ⟨first, rest ++ [turn], old, by simp, hfinds, hold, hstale, ?_⟩
  intro huntouched e he
  rw [run_snoc] at he
  have hturn : ∀ task, turn = .task task → ¬ Touches σ task name :=
    fun task htask => huntouched task (by simp [htask])
  exact hsame (fun task htask => huntouched task (by simp [htask])) e (stored?_of_turn hturn he)

theorem Fresh.foundStale_of_finds (h : start.Fresh stale) {schedule : List (Turn τ)}
    {name : String} (hfinds : (start.run schedule).Finds name) :
    start.FoundStale stale (schedule ++ [.sweep]) name := by
  obtain ⟨hidle, look, hlook, hname⟩ := hfinds
  have hmem : look ∈ start.looks :=
    (looks_run start schedule).subset (List.mem_of_mem_head? hlook)
  obtain ⟨old, hold, hstale⟩ := h.looks look hmem _ (sound_run h.sound schedule) name hname
  refine ⟨schedule, [], old, rfl, ⟨hidle, look, hlook, hname⟩, hold, hstale, ?_⟩
  intro _ e he
  rw [run_snoc] at he
  have hkept : stored? (start.run schedule).store name = some e :=
    stored?_of_turn (by simp) he
  exact Option.some.inj (hkept.symm.trans hold)

/-- The invariant of all schedules, by induction on their last turn. -/
theorem Fresh.foundStale_of_doomed (h : start.Fresh stale) (schedule : List (Turn τ)) :
    ∀ name ∈ (start.run schedule).doomed, start.FoundStale stale schedule name := by
  induction schedule using List.reverseRecOn with
  | nil =>
    intro name hname
    rw [show (start.run []).doomed = [] from h.idle] at hname
    simp at hname
  | append_singleton schedule turn ih =>
    intro name hname
    rw [run_snoc] at hname
    rcases mem_doomed_turn hname with hdoomed | ⟨rfl, hfinds⟩
    · exact (ih name hdoomed).snoc turn
    · exact h.foundStale_of_finds hfinds

/-- Whatever a step of the cleanup takes away has been found stale. -/
theorem Fresh.foundStale_of_taken (h : start.Fresh stale) {schedule : List (Turn τ)}
    {name : String} {e : ε} (hbefore : stored? (start.run schedule).store name = some e)
    (hafter : stored? (start.run (schedule ++ [.sweep])).store name = none) :
    start.FoundStale stale schedule name := by
  rw [run_snoc] at hafter
  exact h.foundStale_of_doomed schedule name (mem_doomed_of_taken hbefore hafter)

/-- Turns of the tasks alone leave the cleanup where it is. -/
theorem run_tasks (c : Cleanup σ) (tasks : List τ) :
    c.run (tasks.map .task) = { c with store := tasks.foldl SharedStore.act c.store } := by
  induction tasks generalizing c with
  | nil => rfl
  | cons task rest ih => exact ih (c.turn (.task task))

/-- Left alone, the cleanup removes everything doomed. -/
theorem run_doomed (looks : List (σ → List String)) (doomed : List String) (count : Nat)
    (store : σ) :
    run ⟨store, looks, doomed, count⟩ (List.replicate doomed.length .sweep) =
      let (count, store) := doomed.foldl
        (fun (count, store) name => SharedStore.discard count store name) (count, store)
      ⟨store, looks, [], count⟩ := by
  induction doomed generalizing count store with
  | nil => rfl
  | cons name doomed ih =>
    exact ih (SharedStore.discard count store name).1 (SharedStore.discard count store name).2

end Cleanup

/-- The operations that neither delete nor clean up. -/
def Operation.OnlyWrites : Operation → Prop
  | .delete _ | .removeBefore _ => False
  | _ => True

theorem Operation.perform_of_onlyWrites {σ : Type} [SnapshotStore σ] {operation : Operation}
    (h : operation.OnlyWrites) (store : σ) (now : Instant) : (operation.perform store now).2 =
      (operation.written? store now).elim store fun s => (SnapshotStore.write store s now).2 := by
  have hchange : operation.change? store now =
      (operation.written? store now).map SnapshotStore.Change.write := by
    cases operation with
    | delete runId => exact h.elim
    | removeBefore cutoff => exact h.elim
    | _ => rfl
  rw [perform_snd, hchange]
  cases operation.written? store now <;> rfl

namespace MemoryStore

/-- The table is a store that tasks write whole snapshots to. -/
instance : SharedStore MemoryStore Snapshot Snapshot where
  stored? store := store.snapshots.find?
  discard count store runId :=
    let (count, snapshots) := discard count store.snapshots runId
    (count, { store with snapshots })
  act store s := (store.write s).2
  Touches s runId := s.runId = runId
  Sound := Sound
  stored?_of_discard {count store other name e} h := by
    change Table.find? name (store.snapshots.erase other) = some e at h
    rw [Table.find?_erase] at h
    split at h
    · simp at h
    · exact h
  stored?_discard_of_ne {count store other name} h := by
    change Table.find? name (store.snapshots.erase other) = _
    rw [Table.find?_erase, if_neg h]
  stored?_act {store s name} h := by
    rcases write_cases store s with hsame | ⟨-, hwritten⟩
    · rw [hsame]
    · rw [hwritten, Table.find?_insert, if_neg fun heq => h heq.symm]
  sound_discard h := h.erase _
  sound_act {store s} h := by
    rcases write_cases store s with hsame | ⟨hid, hwritten⟩
    · rw [hsame]
      exact h
    · rw [hwritten]
      exact h.insert hid

/-- A whole operation of another task is a schedule of its steps. -/
theorem exists_run_perform (c : Cleanup MemoryStore) {operation : Operation}
    (h : operation.OnlyWrites) (now : Instant) :
    ∃ tasks : List Snapshot,
      c.run (tasks.map .task) = { c with store := (operation.perform c.store now).2 } := by
  refine ⟨(operation.written? c.store now).toList, ?_⟩
  rw [Cleanup.run_tasks, operation.perform_of_onlyWrites h]
  cases operation.written? c.store now <;> rfl

/-- A cleanup of the table takes one look at it. -/
def cleanup (store : MemoryStore) (cutoff : Instant) : Cleanup MemoryStore :=
  ⟨store, [fun store => staleIds store.snapshots cutoff], [], 0⟩

theorem fresh_cleanup {store : MemoryStore} (h : store.Sound) (cutoff : Instant) :
    (store.cleanup cutoff).Fresh fun _ => isStale cutoff where
  sound := h
  idle := rfl
  looks look hlook store hsound runId hrun := by
    obtain rfl := List.mem_singleton.mp hlook
    exact (Table.mem_keys_filter hsound.sorted _ runId).mp hrun

theorem foldl_sharedDiscard (store : MemoryStore) (runIds : List String) (count : Nat)
    (snapshots : Table Snapshot) :
    runIds.foldl (fun (count, store) runId => SharedStore.discard count store runId)
        (count, { store with snapshots }) =
      let (count, snapshots) := runIds.foldl
        (fun (count, snapshots) runId => discard count snapshots runId) (count, snapshots)
      (count, { store with snapshots }) := by
  induction runIds generalizing count snapshots with
  | nil => rfl
  | cons runId rest ih =>
    exact ih (discard count snapshots runId).1 (discard count snapshots runId).2

/-- Without turns of others the cleanup is the removal of all that is stale. -/
theorem exists_run_cleanup (store : MemoryStore) (cutoff : Instant) :
    ∃ n, (store.cleanup cutoff).run (List.replicate n .sweep) =
      ⟨(store.removeBefore cutoff).2, [], [], (store.removeBefore cutoff).1⟩ := by
  refine ⟨(staleIds store.snapshots cutoff).length + 1, ?_⟩
  have hlook : (store.cleanup cutoff).sweep =
      ⟨store, [], staleIds store.snapshots cutoff, 0⟩ := rfl
  rw [List.replicate_succ]
  change ((store.cleanup cutoff).sweep).run _ = _
  rw [hlook, Cleanup.run_doomed]
  have hfold := foldl_sharedDiscard store (staleIds store.snapshots cutoff) 0 store.snapshots
  simp only [hfold, removeBefore]

end MemoryStore

namespace Snapshot

/-- One step of writing a snapshot into a folder, which may be made to fail. -/
structure WriteTask where
  runId : String
  text : String
  now : Instant
  step : WriteStep
  fault : Option Error

/-- What a step leaves, be it done or undone. -/
def WriteTask.act (entries : Folder) (task : WriteTask) : Folder :=
  match task.fault.elim (task.step.run task.runId task.text task.now entries) .error with
  | .error _ => WriteStep.undo task.runId entries task.step
  | .ok entries => entries

/-- All steps touch the temporary file; the last one touches the file of the run as well. -/
def WriteTask.Touches (task : WriteTask) (name : String) : Prop :=
  name = tempName task.runId ∨ task.step = .rename ∧ name = fileName task.runId

theorem WriteTask.find?_act {entries : Folder} {task : WriteTask} {name : String}
    (h : ¬ task.Touches name) : (task.act entries).find? name = entries.find? name := by
  obtain ⟨htemp, hfinal⟩ := not_or.mp h
  unfold act
  split
  · exact WriteStep.find?_undo entries task.step htemp
  · next entries' hran =>
    have hrun : task.step.run task.runId task.text task.now entries = .ok entries' := by
      cases hfault : task.fault with
      | none => simpa [hfault] using hran
      | some e => simp [hfault] at hran
    by_cases hstep : task.step = .rename
    · have hname : name ≠ fileName task.runId := fun heq => hfinal ⟨hstep, heq⟩
      rw [hstep] at hrun
      exact WriteStep.find?_rename hrun htemp hname
    · exact WriteStep.find?_run hstep hrun htemp

/-- However far the steps of a write get, it is a run of single steps. -/
theorem exists_tasks_runAll (fault : WriteStep → Option Error) (runId text : String)
    (now : Instant) (steps : List WriteStep) (entries : Folder) :
    ∃ tasks : List WriteTask, (WriteStep.runAll fault runId text now steps entries).2 =
      tasks.foldl (fun entries task => task.act entries) entries := by
  induction steps generalizing entries with
  | nil => exact ⟨[], rfl⟩
  | cons step rest ih =>
    have hact : ∀ entries, WriteTask.act entries ⟨runId, text, now, step, fault step⟩ =
      match (fault step).elim (step.run runId text now entries) .error with
      | .error _ => WriteStep.undo runId entries step
      | .ok entries => entries := fun _ => rfl
    cases hran : (fault step).elim (step.run runId text now entries) .error with
    | error e =>
      refine ⟨[⟨runId, text, now, step, fault step⟩], ?_⟩
      simp only [WriteStep.runAll, hran, List.foldl_cons, List.foldl_nil, hact]
    | ok mid =>
      obtain ⟨tasks, heq⟩ := ih mid
      refine ⟨⟨runId, text, now, step, fault step⟩ :: tasks, ?_⟩
      simp only [WriteStep.runAll, hran, List.foldl_cons, hact, heq]

end Snapshot

namespace FileStore

open Snapshot

/-- Removes a file; a folder of its name stays. -/
def discard (count : Nat) (entries : Folder) (name : String) : Nat × Folder :=
  match entries.find? name with
  | some (.file _ _) =>
      (if (runIdOf? name).isSome then count + 1 else count, entries.erase name)
  | _ => (count, entries)

theorem find?_discard (count : Nat) (entries : Folder) (other name : String) :
    (discard count entries other).2.find? name = entries.find? name ∨
      name = other ∧ (discard count entries other).2.find? name = none := by
  unfold discard
  split
  · rw [Table.find?_erase]
    split
    · next heq => exact Or.inr ⟨heq, rfl⟩
    · exact Or.inl rfl
  · exact Or.inl rfl

instance : SharedStore Folder Node WriteTask where
  stored? entries := entries.find?
  discard := discard
  act entries task := task.act entries
  Touches := WriteTask.Touches
  Sound _ := True
  stored?_of_discard {count entries other name node} h := by
    rcases find?_discard count entries other name with hsame | ⟨-, hgone⟩
    · exact hsame.symm.trans h
    · simp [hgone] at h
  stored?_discard_of_ne {count entries other name} h := by
    rcases find?_discard count entries other name with hsame | ⟨heq, -⟩
    · exact hsame
    · exact absurd heq h
  stored?_act h := WriteTask.find?_act h
  sound_discard _ := trivial
  sound_act _ := trivial

/-- A look at one file. -/
def look (cutoff : Instant) (name : String) (entries : Folder) : List String :=
  if (entries.find? name).any (isStale cutoff name) then [name] else []

/-- A cleanup of a folder goes through names that it was given when it began. -/
def cleanup (entries : Folder) (names : List String) (cutoff : Instant) : Cleanup Folder :=
  ⟨entries, names.map (look cutoff), [], 0⟩

theorem fresh_cleanup (entries : Folder) (names : List String) (cutoff : Instant) :
    (cleanup entries names cutoff).Fresh (isStale cutoff) where
  sound := trivial
  idle := rfl
  looks seen hseen entries _ name hname := by
    obtain ⟨asked, -, rfl⟩ := List.mem_map.mp hseen
    unfold look at hname
    split at hname
    · next hany =>
      obtain rfl := List.mem_singleton.mp hname
      obtain ⟨node, hnode, hstale⟩ := (Option.any_eq_true _ _).mp hany
      exact ⟨node, hnode, hstale⟩
    · simp at hname

/-- What is stale is a file, so it can be removed. -/
theorem discard_of_stale {cutoff : Instant} {count : Nat} {entries : Folder} {name : String}
    {node : Node} (hfind : entries.find? name = some node)
    (hstale : isStale cutoff name node = true) :
    discard count entries name = FileStore.sweep cutoff count entries name := by
  rw [sweep_of_stale hfind hstale]
  cases node with
  | file text modified => simp only [discard, hfind]
  | folder inner => simp [isStale] at hstale

/-- A look at a name and the removal that may follow it make up the sweep of the name. -/
theorem exists_run_look (cutoff : Instant) (name : String) (looks : List (Folder → List String))
    (count : Nat) (entries : Folder) :
    ∃ n, Cleanup.run ⟨entries, look cutoff name :: looks, [], count⟩
        (List.replicate n .sweep) =
      ⟨(FileStore.sweep cutoff count entries name).2, looks, [],
        (FileStore.sweep cutoff count entries name).1⟩ := by
  have hlook : Cleanup.run ⟨entries, look cutoff name :: looks, [], count⟩ [.sweep] =
      ⟨entries, looks, look cutoff name entries, count⟩ := rfl
  have hnext : ∀ n, Cleanup.run ⟨entries, look cutoff name :: looks, [], count⟩
      (List.replicate (n + 1) .sweep) =
      Cleanup.run ⟨entries, looks, look cutoff name entries, count⟩ (List.replicate n .sweep) :=
    fun n => rfl
  cases hfind : entries.find? name with
  | none =>
    refine ⟨1, ?_⟩
    rw [hnext]
    simp [Cleanup.run, look, hfind, FileStore.sweep]
  | some node =>
    cases hstale : isStale cutoff name node with
    | false =>
      refine ⟨1, ?_⟩
      rw [hnext]
      simp [Cleanup.run, look, hfind, hstale, sweep_of_fresh hfind hstale]
    | true =>
      refine ⟨2, ?_⟩
      have hseen : look cutoff name entries = [name] := by simp [look, hfind, hstale]
      rw [hnext, hseen, ← discard_of_stale hfind hstale]
      rfl

theorem exists_run_names (cutoff : Instant) (names : List String) (count : Nat)
    (entries : Folder) :
    ∃ n, Cleanup.run ⟨entries, names.map (look cutoff), [], count⟩ (List.replicate n .sweep) =
      let (count, entries) := names.foldl
        (fun (count, entries) name => FileStore.sweep cutoff count entries name) (count, entries)
      ⟨entries, [], [], count⟩ := by
  induction names generalizing count entries with
  | nil => exact ⟨0, rfl⟩
  | cons name rest ih =>
    obtain ⟨n, hn⟩ := exists_run_look cutoff name (rest.map (look cutoff)) count entries
    obtain ⟨m, hm⟩ := ih (FileStore.sweep cutoff count entries name).1
      (FileStore.sweep cutoff count entries name).2
    refine ⟨n + m, ?_⟩
    rw [List.replicate_add, Cleanup.run_append, List.map_cons, hn]
    exact hm

/-- Without turns of others the cleanup is the removal of all that is stale. -/
theorem exists_run_cleanup {store : FileStore} {entries : Folder}
    (hlisted : store.listed = .folder entries) (cutoff : Instant) :
    ∃ n entries' count, (cleanup entries entries.keys cutoff).run (List.replicate n .sweep) =
        ⟨entries', [], [], count⟩ ∧
      store.removeBefore cutoff = (.ok count, { store with site := .folder entries' }) := by
  obtain ⟨n, hn⟩ := exists_run_names cutoff entries.keys 0 entries
  refine ⟨n, _, _, hn, ?_⟩
  simp only [removeBefore, hlisted]

theorem exists_run_write (c : Cleanup Folder) {store : FileStore}
    (hsite : store.site = .folder c.store) (s : Snapshot) (now : Instant) :
    ∃ (tasks : List WriteTask) (entries : Folder),
      c.run (tasks.map .task) = { c with store := entries } ∧
      (store.write s now).2 = { store with site := .folder entries } := by
  have hidle : ∃ (tasks : List WriteTask) (entries : Folder),
      c.run (tasks.map .task) = { c with store := entries } ∧
      store = { store with site := .folder entries } :=
    ⟨[], c.store, rfl, by rw [← hsite]⟩
  unfold write
  split
  · exact hidle
  · split
    · exact hidle
    · simp only [entriesToWrite, hsite]
      obtain ⟨tasks, heq⟩ :=
        exists_tasks_runAll store.stopping s.runId s.render now WriteStep.all c.store
      exact ⟨tasks, _, Cleanup.run_tasks c tasks, congrArg (fun entries =>
        { store with site := .folder entries }) heq⟩

/-- A whole operation of another task is a schedule of its steps. -/
theorem exists_run_perform (c : Cleanup Folder) {store : FileStore}
    (hsite : store.site = .folder c.store) {operation : Operation} (h : operation.OnlyWrites)
    (now : Instant) :
    ∃ (tasks : List WriteTask) (entries : Folder),
      c.run (tasks.map .task) = { c with store := entries } ∧
      (operation.perform store now).2 = { store with site := .folder entries } := by
  rw [operation.perform_of_onlyWrites h]
  cases operation.written? store now with
  | none => exact ⟨[], c.store, rfl, by rw [← hsite]; rfl⟩
  | some s => exact exists_run_write c hsite s now

end FileStore

/-- What is not after something before a cutoff is before the cutoff. -/
theorem Instant.before_of_not_before {a b cutoff : Instant} (hab : a.before b = false)
    (ha : a.before cutoff = true) : b.before cutoff = true := by
  rw [not_before_iff] at hab
  rw [before_iff] at ha ⊢
  omega

open Snapshot (fileName WriteTask) in
/-- Whenever a cleanup takes a snapshot away while others write, it has looked at it before and
found it stale. If the run has not been written since that look, what is taken away is what the
look has found: in memory a snapshot last checkpointed before the cutoff, in a folder a file last
changed before it, and so no later checkpoint either unless the file is older than its text. -/
theorem taken_snapshot_was_stale (cutoff : Instant) :
    (∀ (store : MemoryStore), store.Sound → ∀ schedule runId s,
      ((store.cleanup cutoff).run schedule).store.snapshots.find? runId = some s →
      ((store.cleanup cutoff).run (schedule ++ [.sweep])).store.snapshots.find? runId = none →
      ∃ first rest old, schedule = first ++ .sweep :: rest ∧
        ((store.cleanup cutoff).run first).Finds runId ∧
        ((store.cleanup cutoff).run first).store.snapshots.find? runId = some old ∧
        old.lastCheckpoint.before cutoff = true ∧
        ((∀ written, .task written ∈ rest → written.runId ≠ runId) → s = old)) ∧
    ∀ (entries : Folder) names schedule runId node,
      ((FileStore.cleanup entries names cutoff).run schedule).store.find? (fileName runId) =
        some node →
      ((FileStore.cleanup entries names cutoff).run (schedule ++ [.sweep])).store.find?
        (fileName runId) = none →
      ∃ first rest text modified, schedule = first ++ .sweep :: rest ∧
        ((FileStore.cleanup entries names cutoff).run first).Finds (fileName runId) ∧
        ((FileStore.cleanup entries names cutoff).run first).store.find? (fileName runId) =
          some (.file text modified) ∧
        modified.before cutoff = true ∧
        ((∀ task : WriteTask, .task task ∈ rest → task.step = .rename → task.runId ≠ runId) →
          node = .file text modified ∧
          ∀ s, text.bind Snapshot.read = some s → modified.before s.lastCheckpoint = false →
            s.lastCheckpoint.before cutoff = true) := by
  constructor
  · intro store hsound schedule runId s hbefore hafter
    obtain ⟨first, rest, old, hsplit, hfinds, hold, hstale, hsame⟩ :=
      (MemoryStore.fresh_cleanup hsound cutoff).foundStale_of_taken hbefore hafter
    exact ⟨first, rest, old, hsplit, hfinds, hold, hstale,
      fun huntouched => hsame huntouched s hbefore⟩
  · intro entries names schedule runId node hbefore hafter
    obtain ⟨first, rest, old, hsplit, hfinds, hold, hstale, hsame⟩ :=
      (FileStore.fresh_cleanup entries names cutoff).foundStale_of_taken hbefore hafter
    cases old with
    | folder inner => simp [FileStore.isStale] at hstale
    | file text modified =>
      have hmodified : modified.before cutoff = true := (Bool.and_eq_true_iff.mp hstale).2
      refine ⟨first, rest, text, modified, hsplit, hfinds, hold, hmodified, ?_⟩
      intro huntouched
      have htouches : ∀ task : WriteTask, .task task ∈ rest → ¬ task.Touches (fileName runId) := by
        rintro task htask (htemp | ⟨hstep, hfinal⟩)
        · exact Snapshot.tempName_ne_fileName task.runId runId htemp.symm
        · exact huntouched task htask hstep (Snapshot.fileName_injective hfinal).symm
      exact ⟨hsame htouches node hbefore,
        fun s _ hdated => Instant.before_of_not_before hdated hmodified⟩

/-- A run's first checkpoint, some seconds after the start of 1970. -/
def Snapshot.bareAt (seconds : Int) : Snapshot := .capture (.bare "r") [] none ⟨seconds, 0⟩

/-- A table with one old snapshot. -/
def MemoryStore.aged : MemoryStore := ⟨[("r", .bareAt 50)], false⟩

theorem MemoryStore.sound_aged : MemoryStore.aged.Sound := by
  have hinserted : MemoryStore.aged =
      { MemoryStore.empty with snapshots := MemoryStore.empty.snapshots.insert "r" (.bareAt 50) } :=
    rfl
  rw [hinserted]
  have hid : RunId.check (Snapshot.bareAt 50).runId = .ok () := by decide
  exact MemoryStore.sound_empty.insert hid

/-- An old file with a checkpoint in it that calls itself a young one. -/
def FileStore.aged : Folder :=
  [("r.json", .file (some (Snapshot.bareAt 150).render) ⟨50, 0⟩)]

/-- A young checkpoint of another run. -/
def Snapshot.neighbour : Snapshot := .capture (.bare "q") [] none ⟨150, 0⟩

open Snapshot (WriteStep WriteTask)

/-- The steps by which a folder comes to hold it. -/
def FileStore.neighbourSteps : List WriteTask :=
  WriteStep.all.map fun step => ⟨"q", Snapshot.neighbour.render, ⟨150, 0⟩, step, none⟩

open FileStore (neighbourSteps)

theorem taken_snapshot_was_stale_of_aged :
    (((MemoryStore.aged.cleanup ⟨100, 0⟩).run
        [.sweep, .task .neighbour, .sweep]).store.snapshots.keys = ["q"] ∧
      ∃ first rest, [Turn.sweep, .task .neighbour] = first ++ .sweep :: rest ∧
        ((MemoryStore.aged.cleanup ⟨100, 0⟩).run first).Finds "r" ∧
        ((MemoryStore.aged.cleanup ⟨100, 0⟩).run first).store.snapshots.find? "r" =
          some (.bareAt 50)) ∧
    ((FileStore.cleanup FileStore.aged ["r.json"] ⟨100, 0⟩).run
        (.sweep :: neighbourSteps.map .task ++ [.sweep])).store.keys = ["q.json"] ∧
      ∃ first rest, .sweep :: neighbourSteps.map .task = first ++ .sweep :: rest ∧
        ((FileStore.cleanup FileStore.aged ["r.json"] ⟨100, 0⟩).run first).Finds "r.json" ∧
        ((FileStore.cleanup FileStore.aged ["r.json"] ⟨100, 0⟩).run first).store.find? "r.json" =
          some (.file (some (Snapshot.bareAt 150).render) ⟨50, 0⟩) := by
  refine ⟨⟨by rfl, ?_⟩, by rfl, ?_⟩
  · obtain ⟨first, rest, old, hsplit, hfinds, hold, -, hsame⟩ :=
      (taken_snapshot_was_stale ⟨100, 0⟩).1 MemoryStore.aged MemoryStore.sound_aged
        [.sweep, .task .neighbour] "r" (.bareAt 50) rfl rfl
    have hothers : ∀ written, .task written ∈ rest → written.runId ≠ "r" := by
      intro written hwritten
      obtain rfl := List.mem_singleton.mp (Turn.mem_of_rest hsplit hwritten)
      decide
    exact ⟨first, rest, hsplit, hfinds, hsame hothers ▸ hold⟩
  · obtain ⟨first, rest, text, modified, hsplit, hfinds, hold, -, hsame⟩ :=
      (taken_snapshot_was_stale ⟨100, 0⟩).2 FileStore.aged ["r.json"]
        (.sweep :: neighbourSteps.map .task) "r"
        (.file (some (Snapshot.bareAt 150).render) ⟨50, 0⟩) (by rfl) (by rfl)
    have hothers : ∀ task : WriteTask, .task task ∈ rest → task.step = .rename →
        task.runId ≠ "r" := by
      intro task htask _
      obtain ⟨step, -, rfl⟩ := List.mem_map.mp (Turn.mem_of_rest hsplit htask)
      exact (by decide : "q" ≠ "r")
    exact ⟨first, rest, hsplit, hfinds, (hsame hothers).1 ▸ hold⟩

theorem Snapshot.readsBack_bareAt : (Snapshot.bareAt 150).ReadsBack :=
  readsBack_of_blank rfl rfl rfl rfl Instant.readsBack_zero (by decide +kernel)

/-- A checkpoint made between the look and the removal is lost, and so is one whose file is older
than itself. -/
theorem young_snapshot_taken :
    (((MemoryStore.aged.cleanup ⟨100, 0⟩).run
        [.sweep, .task (.bareAt 150)]).store.snapshots.find? "r" = some (.bareAt 150) ∧
      (Snapshot.bareAt 150).lastCheckpoint.before ⟨100, 0⟩ = false ∧
      ((MemoryStore.aged.cleanup ⟨100, 0⟩).run
        [.sweep, .task (.bareAt 150), .sweep]).store.snapshots.find? "r" = none) ∧
    (((FileStore.cleanup FileStore.aged ["r.json"] ⟨100, 0⟩).run [.sweep]).store.find? "r.json" =
        some (.file (some (Snapshot.bareAt 150).render) ⟨50, 0⟩) ∧
      Snapshot.read (Snapshot.bareAt 150).render = some (.bareAt 150) ∧
      ((FileStore.cleanup FileStore.aged ["r.json"] ⟨100, 0⟩).run [.sweep, .sweep]).store.find?
        "r.json" = none) := by
  refine ⟨⟨rfl, rfl, rfl⟩, ?_, ?_, ?_⟩
  · rfl
  · exact Snapshot.readsBack_bareAt
  · rfl

end Runbook
