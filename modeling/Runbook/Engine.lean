import Runbook.Orchestrator
import Runbook.Store.Basic

/-!
The engine takes a workflow through a run. Before anything is executed the workflow is validated
and a snapshot is stored; a run that is resumed has to fit the document. Whatever the
orchestrator answers, the run's end is noted in its snapshot.
-/

namespace Runbook

structure Engine where
  validator : Validator
  /-- No run is begun any more. -/
  cancelled : Bool

structure Outcome where
  runId : String
  result : ExecutionResult
  validation : Report

namespace Report

def accept (r : Report) : Except Error Unit :=
  if r.isValid then .ok () else .error (.validationFailed r.errors.length r.errorSummary)

end Report

namespace Engine

variable {σ : Type} [SnapshotStore σ]

def ensureNotCancelled (e : Engine) : Except Error Unit :=
  if e.cancelled then .error .cancelled else .ok ()

def check (e : Engine) (w : Workflow) : Except Error Report := do
  e.ensureNotCancelled
  let report := e.validator.validate w
  report.accept
  return report

/-- A fresh run, which engine and orchestrator both let pass. -/
def pass (e : Engine) (validate : Workflow → RunContext → Report) (w : Workflow)
    (runId : String) (now : Instant) : Except Error (RunContext × Report) := do
  let report ← e.check w
  let ctx := RunContext.ofWorkflow runId w now
  (validate w ctx).accept
  return (ctx, report)

def prepareRun (e : Engine) (validate : Workflow → RunContext → Report) (w : Workflow)
    (runId : String) (now : Instant) (store : σ) : Except Error (RunContext × Report) × σ :=
  match e.pass validate w runId now with
  | .error err => (.error err, store)
  | .ok (ctx, report) =>
      match SnapshotStore.save store ctx [] now with
      | (.error err, store) => (.error err, store)
      | (.ok (), store) => (.ok (ctx, report), store)

def passAgain (e : Engine) (runId : String) (w : Workflow) (text : String) (force : Bool)
    (store : σ) : Except Error ((RunContext × Conversation) × Report) := do
  let report ← e.check w
  let restored ← SnapshotStore.prepareResume store runId text force
  return (restored, report)

/-- All that comes before a run goes on. Its snapshot is stored again where it does not name the
workflow's text yet. -/
def prepareResume (e : Engine) (runId : String) (w : Workflow) (text : String) (force : Bool)
    (now : Instant) (store : σ) : Except Error Report × σ :=
  match e.passAgain runId w text force store with
  | .error err => (.error err, store)
  | .ok ((ctx, conversation), report) =>
      if ctx.workflowHash = some w.contentHash then (.ok report, store)
      else
        let ctx := { ctx with workflowHash := some w.contentHash }
        match SnapshotStore.save store ctx conversation now with
        | (.error err, store) => (.error err, store)
        | (.ok (), store) => (.ok report, store)

/-- Notes the end of a run; that this fails does not matter. The snapshot of a completed run is
removed where the workflow does not want to be resumed. -/
def finish (runId : String) (w : Workflow) (reply : Reply) (validation : Report) (now : Instant)
    (store : σ) : Except Error Outcome × σ :=
  let (_, store) := SnapshotStore.markStatus store runId reply.status now
  let outcome := reply.result.map fun result => ⟨runId, result, validation⟩
  if reply.status = .completed && !w.header.extensions.resumePolicy.enabled then
    match SnapshotStore.delete store runId with
    | (.error err, store) => (.error err, store)
    | (.ok _, store) => (outcome, store)
  else (outcome, store)

def run (e : Engine) (o : Orchestrator σ) (w : Workflow) (runId : String) (start stop : Instant)
    (store : σ) : Except Error Outcome × σ :=
  match e.prepareRun o.validate w runId start store with
  | (.error err, store) => (.error err, store)
  | (.ok (ctx, report), store) =>
      let (reply, store) := o.execute w ctx store
      finish runId w reply report stop store

def resume (e : Engine) (o : Orchestrator σ) (runId : String) (w : Workflow) (text : String)
    (force : Bool) (start stop : Instant) (store : σ) : Except Error Outcome × σ :=
  match e.prepareResume runId w text force start store with
  | (.error err, store) => (.error err, store)
  | (.ok report, store) =>
      let (reply, store) := o.resume runId w store
      finish runId w reply report stop store

def resumeFile (e : Engine) (o : Orchestrator σ) (document : Except Error (String × Workflow))
    (runId : String) (force : Bool) (start stop : Instant) (store : σ) :
    Except Error Outcome × σ :=
  match e.ensureNotCancelled *> document with
  | .error err => (.error err, store)
  | .ok (text, w) => e.resume o runId w text force start stop store

end Engine

end Runbook
