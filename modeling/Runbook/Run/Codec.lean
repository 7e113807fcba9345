import Runbook.Json.Members
import Runbook.Json.Printer
import Runbook.Json.Reader
import Runbook.Run.Snapshot
import Runbook.Time.Rfc3339

/-!
Snapshots as JSON texts. What a field defaults to need not be written; members that are not
known are passed over.
-/

namespace Runbook

open Json (Reading Members)

def Instant.fromJson : Reading Instant := fun levels s => do
  Instant.read (← Json.asText levels s)

def Instant.toJson (t : Instant) : Json := .text t.render

def RunStatus.fromJson : Reading RunStatus :=
  Json.asChoice (RunStatus.all.map fun s => (s.name, s))

namespace Step

def fieldNames : List String :=
  ["stepName", "stepType", "startTime", "endTime", "success", "errorMessage"]

def fromJson : Reading Step := fun levels s => do
  let m ← Members.read fieldNames levels s
  return {
    name := ← m.required "stepName" Json.asText
    type := ← m.withDefault "stepType" "" Json.asText
    start := ← m.required "startTime" Instant.fromJson
    stop := ← m.withDefault "endTime" none (Json.asOption Instant.fromJson)
    success := ← m.required "success" Json.asBool
    error := ← m.withDefault "errorMessage" none (Json.asOption Json.asText) }

def toJson (s : Step) : Json :=
  .object [
    ("stepName", .text s.name),
    ("stepType", .text s.type),
    ("startTime", s.start.toJson),
    ("endTime", .option (s.stop.map Instant.toJson)),
    ("success", .bool s.success),
    ("errorMessage", .option (s.error.map .text))]

end Step

namespace StoredMessage

def fromJson : Reading StoredMessage := fun levels s => do
  let m ← Members.read ["role", "content", "timestamp"] levels s
  return {
    role := ← m.required "role" Json.asText
    content := ← m.required "content" Json.asText
    timestamp := ← m.required "timestamp" Instant.fromJson }

def toJson (m : StoredMessage) : Json :=
  .object [
    ("role", .text m.role), ("content", .text m.content), ("timestamp", m.timestamp.toJson)]

end StoredMessage

namespace Snapshot

structure RunPart where
  id : String
  filePath : String
  contentHash : Option String
  startedAt : Instant
  lastCheckpoint : Instant
  status : RunStatus

structure ContextPart where
  currentStep : Option String
  vars : Table Json
  history : List Step

def runPart : Reading RunPart := fun levels s => do
  let m ← Members.read
    ["id", "filePath", "contentHash", "startedAt", "lastCheckpoint", "status"] levels s
  return {
    id := ← m.required "id" Json.asText
    filePath := ← m.required "filePath" Json.asText
    contentHash := ← m.withDefault "contentHash" none (Json.asOption Json.asText)
    startedAt := ← m.required "startedAt" Instant.fromJson
    lastCheckpoint := ← m.required "lastCheckpoint" Instant.fromJson
    status := ← m.required "status" RunStatus.fromJson }

def contextPart : Reading ContextPart := fun levels s => do
  let m ← Members.read ["currentStep", "variables", "executionHistory"] levels s
  return {
    currentStep := ← m.withDefault "currentStep" none (Json.asOption Json.asText)
    vars := ← m.withDefault "variables" [] Json.asTable
    history := ← m.withDefault "executionHistory" [] (Json.asList Step.fromJson) }

def fromJson : Reading Snapshot := fun levels s => do
  let m ← Members.read
    ["formatVersion", "workflow", "conversationMessages", "executionContext"] levels s
  let version ← m.withDefault "formatVersion" currentFormat (Json.asNat isNat32)
  let run ← m.required "workflow" runPart
  let messages ← m.withDefault "conversationMessages" [] (Json.asList StoredMessage.fromJson)
  let context ← m.withDefault "executionContext" ⟨none, [], []⟩ contextPart
  return {
    formatVersion := version, runId := run.id, filePath := run.filePath,
    contentHash := run.contentHash, startedAt := run.startedAt,
    lastCheckpoint := run.lastCheckpoint, status := run.status, messages,
    currentStep := context.currentStep, vars := context.vars,
    history := context.history }

def toJson (s : Snapshot) : Json :=
  .object [
    ("formatVersion", .int s.formatVersion),
    ("workflow", .object [
      ("id", .text s.runId),
      ("filePath", .text s.filePath),
      ("contentHash", .option (s.contentHash.map .text)),
      ("startedAt", s.startedAt.toJson),
      ("lastCheckpoint", s.lastCheckpoint.toJson),
      ("status", .text s.status.name)]),
    ("conversationMessages", .array (s.messages.map StoredMessage.toJson)),
    ("executionContext", .object [
      ("currentStep", .option (s.currentStep.map .text)),
      ("variables", .object s.vars),
      ("executionHistory", .array (s.history.map Step.toJson))])]

def render (s : Snapshot) : String := s.toJson.render

def ofSource (s : Source) : Option Snapshot := fromJson Json.maxLevels s

def read (text : String) : Option Snapshot := do ofSource (← Source.read text)

end Snapshot

end Runbook
