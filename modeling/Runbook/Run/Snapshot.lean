import Runbook.Run.Variable
import Runbook.Text.Blank
import Runbook.Time.Instant
import Runbook.Workflow
import Runbook.Yaml.ToJson

/-!
A run as its orchestrator sees it, and the snapshot that is stored of it. A snapshot is
captured from a run and its conversation; the run is restored from the snapshot, where roles
that are not known are read as the assistant's.
-/

namespace Runbook

inductive RunStatus
  | inProgress
  | completed
  | failed
  | cancelled
deriving DecidableEq

namespace RunStatus

def all : List RunStatus := [inProgress, completed, failed, cancelled]

def name : RunStatus → String
  | inProgress => "in_progress"
  | completed => "completed"
  | failed => "failed"
  | cancelled => "cancelled"

def ofName? (s : String) : Option RunStatus := all.find? (·.name = s)

def isTerminal (s : RunStatus) : Bool := s ≠ inProgress

end RunStatus

structure Step where
  name : String
  type : String
  start : Instant
  stop : Option Instant
  success : Bool
  error : Option String
deriving DecidableEq

namespace Step

def completed (name type : String) (start now : Instant) : Step :=
  ⟨name, type, start, some now, true, none⟩

def failed (name error : String) (now : Instant) : Step :=
  ⟨name, "step", now, some now, false, some error⟩

end Step

inductive Role
  | user
  | assistant
  | system
  | tool
deriving DecidableEq

namespace Role

def name : Role → String
  | user => "user"
  | assistant => "assistant"
  | system => "system"
  | tool => "tool"

/-- Reads a role without regard to case and white space; an unknown one is the assistant. -/
def ofStored (s : String) : Role :=
  let s := Text.lowered (Text.trimmed s)
  if s = "user" then user
  else if s = "system" then system
  else if s = "tool" then tool
  else assistant

end Role

structure Message where
  role : Role
  content : String
  timestamp : Instant
deriving DecidableEq

/-- A message as stored, with any text for a role. -/
structure StoredMessage where
  role : String
  content : String
  timestamp : Instant
deriving DecidableEq

namespace Message

def toStored (m : Message) : StoredMessage := ⟨m.role.name, m.content, m.timestamp⟩

def ofStored (m : StoredMessage) : Message := ⟨.ofStored m.role, m.content, m.timestamp⟩

end Message

abbrev Conversation := List Message

structure RunContext where
  runId : String
  workflowPath : String
  workflowHash : Option String
  startedAt : Instant
  currentStep : Option String
  vars : Table Variable
  history : List Step

structure Snapshot where
  formatVersion : Nat
  runId : String
  filePath : String
  contentHash : Option String
  startedAt : Instant
  lastCheckpoint : Instant
  status : RunStatus
  messages : List StoredMessage
  currentStep : Option String
  vars : Table Json
  history : List Step

namespace RunContext

/-- The variable for a default value, unless the value has no JSON form. -/
def defaultVariable (v : Yaml) : Option Variable := (Yaml.toJson? v).map .ofJson

/-- The variables that a workflow's inputs start with: listed values go before declared ones,
even where they give no variable. -/
def initialVariables (input : InputSpec) : Table Variable :=
  let names := input.default.keys ++ (input.schema.getD []).keys
  names.foldl (fun vars name =>
    if vars.contains name then vars
    else match (input.defaultFor? name).bind defaultVariable with
      | some v => vars.insert name v
      | none => vars) []

def ofWorkflow (runId : String) (w : Workflow) (now : Instant) : RunContext :=
  { runId
    workflowPath := w.sourcePath.getD ""
    workflowHash := some w.contentHash
    startedAt := now
    currentStep := none
    vars := initialVariables w.header.input
    history := [] }

end RunContext

namespace Snapshot

def currentFormat : Nat := 1

/-- The snapshot of a run; the time of its start is taken over from an earlier one. -/
def capture (ctx : RunContext) (conversation : Conversation) (previous : Option Snapshot)
    (now : Instant) : Snapshot :=
  { formatVersion := currentFormat
    runId := ctx.runId
    filePath := ctx.workflowPath
    contentHash := ctx.workflowHash
    startedAt := (previous.map (·.startedAt)).getD ctx.startedAt
    lastCheckpoint := now
    status := .inProgress
    messages := conversation.map Message.toStored
    currentStep := ctx.currentStep
    vars := ctx.vars.mapValues Variable.toJson
    history := ctx.history }

def context (s : Snapshot) : RunContext :=
  { runId := s.runId
    workflowPath := s.filePath
    workflowHash := s.contentHash
    startedAt := s.startedAt
    currentStep := s.currentStep
    vars := s.vars.mapValues Variable.ofJson
    history := s.history }

def conversation (s : Snapshot) : Conversation := s.messages.map Message.ofStored

def restore (s : Snapshot) : RunContext × Conversation := (s.context, s.conversation)

def addStep (s : Snapshot) (step : Step) (line : String) (now : Instant) : Snapshot :=
  { s with
    messages := s.messages ++ [⟨Role.system.name, line, now⟩]
    currentStep := some step.name
    history := s.history ++ [step]
    lastCheckpoint := now }

def completeStep (s : Snapshot) (step : Step) (now : Instant) : Snapshot :=
  s.addStep step ("Step '" ++ step.name ++ "' (" ++ step.type ++ ") completed") now

def failStep (s : Snapshot) (name error : String) (now : Instant) : Snapshot :=
  s.addStep (.failed name error now) ("Step '" ++ name ++ "' failed: " ++ error) now

def setStatus (s : Snapshot) (status : RunStatus) (now : Instant) : Snapshot :=
  { s with status, lastCheckpoint := now }

end Snapshot

end Runbook
