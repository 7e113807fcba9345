import Runbook.Error
import Runbook.Run.Snapshot
import Runbook.Validation.Validator

/-!
Orchestrators carry out workflows. They may look at workflows before these run, and work on the
store of snapshots while they run.
-/

namespace Runbook

structure ExecutionResult where
  success : Bool
  output : Option String
  error : Option String
  milliseconds : Nat
deriving DecidableEq

namespace ExecutionResult

def succeeded (output : String) (milliseconds : Nat) : ExecutionResult :=
  ⟨true, some output, none, milliseconds⟩

def failed (error : String) (milliseconds : Nat) : ExecutionResult :=
  ⟨false, none, some error, milliseconds⟩

/-- The answer of an orchestrator that calls no model: a failure with the given text, or a
success. -/
def mock (failure : Option String) (milliseconds : Nat) : ExecutionResult :=
  match failure with
  | some text => failed text milliseconds
  | none => succeeded "Mock response" milliseconds

end ExecutionResult

/-- How the wait for an orchestrator ends. -/
inductive Reply
  | answered (result : Except Error ExecutionResult)
  /-- The run was called off first. -/
  | interrupted

namespace Reply

def result : Reply → Except Error ExecutionResult
  | answered result => result
  | interrupted => .error .cancelled

def status (r : Reply) : RunStatus :=
  match r.result with
  | .ok result => if result.success then .completed else .failed
  | .error .cancelled => .cancelled
  | .error _ => .failed

end Reply

structure Orchestrator (σ : Type) where
  validate : Workflow → RunContext → Report
  execute : Workflow → RunContext → σ → Reply × σ
  /-- Carries on with a run, whose state it takes from the store. -/
  resume : String → Workflow → σ → Reply × σ

namespace Orchestrator

def mock {σ : Type} (failure : Option String) (milliseconds : Nat) : Orchestrator σ where
  validate w _ := Validator.standard.validate w
  execute _ _ store := (.answered (.ok (.mock failure milliseconds)), store)
  resume _ _ store := (.answered (.ok (.mock failure milliseconds)), store)

end Orchestrator

end Runbook
