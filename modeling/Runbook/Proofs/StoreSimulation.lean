import Runbook.Proofs.StoreOperations

/-!
Stores that cannot be told apart. A relation between stores that is kept by the five operations
which a store brings, with the same answers on both sides, is kept by everything that can be asked
of a store, call after call.
-/

namespace Runbook

open SnapshotStore (find previous)

variable {σ τ : Type}

namespace Simulation

variable {R : σ → τ → Prop} {α β : Type} {x : Except Error α × σ} {y : Except Error α × τ}

/-- Answers that are turned alike into others stay alike. -/
theorem map_answer (h : x.1 = y.1 ∧ R x.2 y.2) (f : α → β) :
    (x.map (Except.map f) id).1 = (y.map (Except.map f) id).1 ∧
      R (x.map (Except.map f) id).2 (y.map (Except.map f) id).2 := by
  refine ⟨?_, h.2⟩
  rw [Prod.map_fst, Prod.map_fst, h.1]

theorem map_tracked (h : x.1 = y.1 ∧ R x.2 y.2) :
    (x.1.map fun _ => ()) = (y.1.map fun _ => ()) ∧ R x.2 y.2 :=
  ⟨by rw [h.1], h.2⟩

end Simulation

variable [SnapshotStore σ] [Cancellable σ] [SnapshotStore τ] [Cancellable τ]

/-- Related stores answer alike and stay related, as long as what is written satisfies `P`. -/
structure Simulation (R : σ → τ → Prop) (P : Snapshot → Prop) : Prop where
  find_eq {a : σ} {b : τ} (h : R a b) (runId : String) : find a runId = find b runId
  write {a : σ} {b : τ} (h : R a b) {s : Snapshot} (hs : P s) {now : Instant}
    (hnow : s.lastCheckpoint = now) :
    (SnapshotStore.write a s now).1 = (SnapshotStore.write b s now).1 ∧
      R (SnapshotStore.write a s now).2 (SnapshotStore.write b s now).2
  delete {a : σ} {b : τ} (h : R a b) (runId : String) :
    (SnapshotStore.delete a runId).1 = (SnapshotStore.delete b runId).1 ∧
      R (SnapshotStore.delete a runId).2 (SnapshotStore.delete b runId).2
  available_eq {a : σ} {b : τ} (h : R a b) : SnapshotStore.available a = SnapshotStore.available b
  removeBefore {a : σ} {b : τ} (h : R a b) (cutoff : Instant) :
    (SnapshotStore.removeBefore a cutoff).1 = (SnapshotStore.removeBefore b cutoff).1 ∧
      R (SnapshotStore.removeBefore a cutoff).2 (SnapshotStore.removeBefore b cutoff).2
  setCancelled {a : σ} {b : τ} (h : R a b) (cancelled : Bool) :
    R (setCancelled cancelled a) (setCancelled cancelled b)

namespace Simulation

variable {R : σ → τ → Prop} {P : Snapshot → Prop} {a : σ} {b : τ}

theorem save (hR : Simulation R P) (h : R a b) (ctx : RunContext) (conversation : Conversation)
    (now : Instant) (hs : ∀ s, (Operation.save ctx conversation).written? a now = some s → P s) :
    (SnapshotStore.save a ctx conversation now).1 = (SnapshotStore.save b ctx conversation now).1 ∧
      R (SnapshotStore.save a ctx conversation now).2
        (SnapshotStore.save b ctx conversation now).2 := by
  have hsame : previous a ctx.runId = previous b ctx.runId := by
    simp only [previous, hR.find_eq h]
  unfold SnapshotStore.save
  rw [← hsame]
  cases hprevious : previous a ctx.runId with
  | error e => exact ⟨rfl, h⟩
  | ok found =>
    refine hR.write h (hs _ ?_) rfl
    simp only [Operation.written?, hprevious, Except.toOption, Option.map_some]

theorem update (hR : Simulation R P) (h : R a b) (runId : String) (change : Snapshot → Snapshot)
    (now : Instant) (hnow : ∀ s, (change s).lastCheckpoint = now)
    (hs : ∀ s, (Operation.held? a runId).map change = some s → P s) :
    (SnapshotStore.update a runId change now).1 = (SnapshotStore.update b runId change now).1 ∧
      R (SnapshotStore.update a runId change now).2
        (SnapshotStore.update b runId change now).2 := by
  cases hfind : find a runId with
  | error e =>
    rw [SnapshotStore.update_of_error hfind,
      SnapshotStore.update_of_error (hR.find_eq h runId ▸ hfind)]
    exact ⟨rfl, h⟩
  | ok found =>
    have hother : find b runId = .ok found := hR.find_eq h runId ▸ hfind
    cases found with
    | none =>
      rw [SnapshotStore.update_of_none hfind, SnapshotStore.update_of_none hother]
      exact ⟨rfl, h⟩
    | some s =>
      have hwritable : P (change s) := by
        apply hs
        rw [Operation.held?_of_find hfind, Option.map_some]
      rw [SnapshotStore.update_of_some hfind, SnapshotStore.update_of_some hother]
      exact map_answer (hR.write h hwritable (hnow s)) _

/-- No operation tells related stores apart. -/
theorem perform (hR : Simulation R P) (h : R a b) (now : Instant) (operation : Operation)
    (hs : ∀ s, operation.written? a now = some s → P s) :
    (operation.perform a now).1 = (operation.perform b now).1 ∧
      R (operation.perform a now).2 (operation.perform b now).2 := by
  cases operation with
  | save ctx conversation => exact map_answer (hR.save h ctx conversation now hs) _
  | load runId => exact ⟨by simp only [Operation.perform, SnapshotStore.load, hR.find_eq h], h⟩
  | complete runId step =>
    exact map_answer (map_tracked (hR.update h runId _ now (fun s => rfl) hs)) _
  | fail runId name error =>
    exact map_answer (map_tracked (hR.update h runId _ now (fun s => rfl) hs)) _
  | mark runId status => exact map_answer (hR.update h runId _ now (fun s => rfl) hs) _
  | compatible runId text =>
    exact ⟨by simp only [Operation.perform, SnapshotStore.isCompatible, hR.find_eq h], h⟩
  | prepare runId text force =>
    exact ⟨by simp only [Operation.perform, SnapshotStore.prepareResume, hR.find_eq h], h⟩
  | list => exact ⟨by simp only [Operation.perform, hR.available_eq h], h⟩
  | delete runId => exact map_answer (hR.delete h runId) _
  | removeBefore cutoff => exact map_answer (hR.removeBefore h cutoff) _

theorem run (hR : Simulation R P) (h : R a b) (call : Call)
    (hs : ∀ s, call.written? a = some s → P s) :
    (call.run a).1 = (call.run b).1 ∧ R (call.run a).2 (call.run b).2 :=
  hR.perform (hR.setCancelled h call.cancelled) call.now call.operation hs

/-- No run of calls tells related stores apart. The induction is on the calls; the relation carries
it from one to the next. -/
theorem trace (hR : Simulation R P) (h : R a b) (calls : List Call)
    (hs : ∀ s ∈ Call.writes a calls, P s) :
    List.Forall₂ (fun x y => x.1 = y.1 ∧ R x.2 y.2) (Call.trace a calls) (Call.trace b calls) := by
  induction calls generalizing a b with
  | nil => exact List.Forall₂.nil
  | cons call rest ih =>
    have hcall : ∀ s, call.written? a = some s → P s := by
      intro s hwritten
      apply hs
      simp [Call.writes, hwritten]
    have hrest : ∀ s ∈ Call.writes (call.run a).2 rest, P s := by
      intro s hmem
      exact hs s (List.mem_append_right _ hmem)
    have hrun := hR.run h call hcall
    exact List.Forall₂.cons hrun (ih hrun.2 hrest)

end Simulation

end Runbook
