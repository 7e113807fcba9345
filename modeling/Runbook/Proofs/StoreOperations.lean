import Runbook.Proofs.StoreContract

/-!
What a store can be asked to do, as data, and runs of such calls. Whatever the operation, it
changes the store at most once, and what it writes is settled by what it finds.
-/

namespace Runbook

open SnapshotStore (read write find previous update isCompatible Change)

/-- What a store is asked to do. -/
inductive Operation
  | save (ctx : RunContext) (conversation : Conversation)
  | load (runId : String)
  | complete (runId : String) (step : Step)
  | fail (runId name error : String)
  | mark (runId : String) (status : RunStatus)
  | compatible (runId text : String)
  | prepare (runId text : String) (force : Bool)
  | list
  | delete (runId : String)
  | removeBefore (cutoff : Instant)

inductive Answer
  | done
  | truth (value : Bool)
  | found (state : Option (RunContext × Conversation))
  | resumed (state : RunContext × Conversation)
  | names (names : Names)
  | count (n : Nat)

section

variable {σ : Type} [SnapshotStore σ]

namespace SnapshotStore

variable {store : σ} {runId : String}

theorem update_of_error {e : Error} (h : find store runId = .error e)
    (change : Snapshot → Snapshot) (now : Instant) :
    update store runId change now = (.error e, store) := by
  rw [update, h]

theorem update_of_none (h : find store runId = .ok none) (change : Snapshot → Snapshot)
    (now : Instant) : update store runId change now = (.ok false, store) := by
  rw [update, h]

theorem update_of_some {s : Snapshot} (h : find store runId = .ok (some s))
    (change : Snapshot → Snapshot) (now : Instant) : update store runId change now =
      (write store (change s) now).map (.map fun _ => true) id := by
  simp only [update, h]
  cases write store (change s) now with
  | mk answer store' => cases answer <;> rfl

end SnapshotStore

open SnapshotStore (update_of_error update_of_none update_of_some)

namespace Operation

/-- The operation's answer and the store that it leaves. -/
def perform (store : σ) (now : Instant) : Operation → Except Error Answer × σ
  | save ctx conversation =>
      (SnapshotStore.save store ctx conversation now).map (.map fun _ => .done) id
  | load runId => ((SnapshotStore.load store runId).map .found, store)
  | complete runId step =>
      (SnapshotStore.trackCompletion store runId step now).map (.map fun _ => .done) id
  | fail runId name error =>
      (SnapshotStore.trackFailure store runId name error now).map (.map fun _ => .done) id
  | mark runId status => (SnapshotStore.markStatus store runId status now).map (.map .truth) id
  | compatible runId text => ((isCompatible store runId text).map .truth, store)
  | prepare runId text force =>
      ((SnapshotStore.prepareResume store runId text force).map .resumed, store)
  | list => ((SnapshotStore.available store).map .names, store)
  | delete runId => (SnapshotStore.delete store runId).map (.map .truth) id
  | removeBefore cutoff => (SnapshotStore.removeBefore store cutoff).map (.map .count) id

/-- The run's snapshot, as far as there is a readable one. -/
def held? (store : σ) (runId : String) : Option Snapshot := (find store runId).toOption.join

/-- The snapshot that an operation hands over for writing. -/
def written? (store : σ) (now : Instant) : Operation → Option Snapshot
  | save ctx conversation =>
      (previous store ctx.runId).toOption.map fun previous => .capture ctx conversation previous now
  | complete runId step => (held? store runId).map (·.completeStep step now)
  | fail runId name error => (held? store runId).map (·.failStep name error now)
  | mark runId status => (held? store runId).map (·.setStatus status now)
  | _ => none

/-- The change that an operation makes to the store. -/
def change? (store : σ) (now : Instant) : Operation → Option Change
  | delete runId => some (.delete runId)
  | removeBefore cutoff => some (.removeBefore cutoff)
  | operation => (operation.written? store now).map .write

theorem change?_of_written {store : σ} {now : Instant} {operation : Operation} {s : Snapshot}
    (h : operation.written? store now = some s) :
    operation.change? store now = some (.write s) := by
  cases operation with
  | save ctx conversation => simp [change?, h]
  | complete runId step => simp [change?, h]
  | fail runId name error => simp [change?, h]
  | mark runId status => simp [change?, h]
  | _ => simp [written?] at h

theorem held?_of_find {store : σ} {runId : String} {found : Option Snapshot}
    (h : find store runId = .ok found) : held? store runId = found := by
  rw [held?, h]
  cases found <;> rfl

theorem update_snd (store : σ) (runId : String) (change : Snapshot → Snapshot) (now : Instant) :
    (update store runId change now).2 =
      ((held? store runId).map change).elim store fun s => (write store s now).2 := by
  cases hfind : find store runId with
  | error e =>
    rw [update_of_error hfind, held?, hfind]
    rfl
  | ok found =>
    rw [held?_of_find hfind]
    cases found with
    | none => rw [update_of_none hfind, Option.map_none, Option.elim_none]
    | some s =>
      rw [update_of_some hfind]
      rfl

/-- An operation does to the store what its change does, or nothing. -/
theorem perform_snd (store : σ) (now : Instant) (operation : Operation) :
    (operation.perform store now).2 =
      (operation.change? store now).elim store (Change.apply now store) := by
  cases operation with
  | save ctx conversation =>
    simp only [perform, change?, written?, Prod.map_snd, id, SnapshotStore.save]
    cases previous store ctx.runId with
    | error e => rfl
    | ok found => rfl
  | complete runId step =>
    simp only [perform, change?, written?, Prod.map_snd, id, SnapshotStore.trackCompletion,
      update_snd]
    cases held? store runId <;> rfl
  | fail runId name error =>
    simp only [perform, change?, written?, Prod.map_snd, id, SnapshotStore.trackFailure,
      update_snd]
    cases held? store runId <;> rfl
  | mark runId status =>
    simp only [perform, change?, written?, Prod.map_snd, id, SnapshotStore.markStatus, update_snd]
    cases held? store runId <;> rfl
  | load runId => rfl
  | compatible runId text => rfl
  | prepare runId text force => rfl
  | list => rfl
  | delete runId => rfl
  | removeBefore cutoff => rfl

end Operation

end

/-- An operation at the instant that its clock shows, with the token cancelled or not. -/
structure Call where
  operation : Operation
  now : Instant
  cancelled : Bool

namespace Call

variable {σ : Type} [SnapshotStore σ] [Cancellable σ]

def run (store : σ) (call : Call) : Except Error Answer × σ :=
  call.operation.perform (setCancelled call.cancelled store) call.now

def written? (store : σ) (call : Call) : Option Snapshot :=
  call.operation.written? (setCancelled call.cancelled store) call.now

/-- The store after some calls. -/
def runAll (store : σ) (calls : List Call) : σ :=
  calls.foldl (fun store call => (call.run store).2) store

/-- The answers to some calls, each with the store after it. -/
def trace (store : σ) : List Call → List (Except Error Answer × σ)
  | [] => []
  | call :: rest => call.run store :: trace (call.run store).2 rest

/-- The snapshots that some calls hand over for writing. -/
def writes (store : σ) : List Call → List Snapshot
  | [] => []
  | call :: rest => (call.written? store).toList ++ writes (call.run store).2 rest

theorem runAll_append (store : σ) (before after : List Call) :
    runAll store (before ++ after) = runAll (runAll store before) after :=
  List.foldl_append

theorem runAll_concat (store : σ) (calls : List Call) (call : Call) :
    runAll store (calls ++ [call]) = (call.run (runAll store calls)).2 :=
  runAll_append store calls [call]

theorem writes_append (store : σ) (before after : List Call) :
    writes store (before ++ after) = writes store before ++ writes (runAll store before) after := by
  induction before generalizing store with
  | nil => rfl
  | cons call rest ih =>
    change (call.written? store).toList ++ writes (call.run store).2 (rest ++ after) =
      ((call.written? store).toList ++ writes (call.run store).2 rest) ++ _
    rw [ih, List.append_assoc]
    rfl

/-- A call leaves the store with its token set, and changed at most once. -/
theorem run_snd (store : σ) (call : Call) : (call.run store).2 = setCancelled call.cancelled store ∨
    ∃ change : Change, (call.run store).2 =
      change.apply call.now (setCancelled call.cancelled store) ∧
      ∀ s, change = .write s → call.written? store = some s := by
  unfold run written?
  rw [Operation.perform_snd]
  cases hchange : call.operation.change? (setCancelled call.cancelled store) call.now with
  | none => exact Or.inl rfl
  | some change =>
    refine Or.inr ⟨change, rfl, ?_⟩
    rintro s rfl
    cases hop : call.operation <;>
      simp_all [Operation.change?, Operation.written?]

end Call

end Runbook
