import Runbook.Json.Printer
import Runbook.Text.Quoted
import Runbook.Workflow
import Runbook.Yaml.ToJson

/-!
What there is to see in a workflow, as lines of text and as JSON. The JSON view names its
members in ascending order.
-/

namespace Runbook

open Yaml (toJson?)

def ModelConfig.view (c : ModelConfig) : Json :=
  .object [
    ("maxOutputTokens", .option (c.maxOutputTokens.map .int)),
    ("stopSequences", .strings c.stopSequences),
    ("temperature", .option (c.temperature.map .float)),
    ("topP", .option (c.topP.map .float))]

def Yaml.tableView? (t : Table Yaml) : Option Json :=
  (t.mapM fun entry => (toJson? entry.2).map fun j => (entry.1, j)).map .object

def McpServer.view? (m : McpServer) : Option Json := do
  return .object [
    ("args", .strings m.args),
    ("command", .option (m.command.map .text)),
    ("config", ← Yaml.tableView? m.config),
    ("env", .object (m.env.mapValues .text)),
    ("server", .text m.server),
    ("version", .option (m.version.map .text))]

def SubWorkflow.view? (s : SubWorkflow) : Option Json := do
  return .object [
    ("depends-on", .strings s.dependsOn),
    ("name", .option (s.name.map .text)),
    ("parameters", ← Yaml.tableView? s.parameters),
    ("path", .text s.path)]

def ResumePolicy.view (p : ResumePolicy) : Json :=
  .object [
    ("checkpoint-frequency", .text p.checkpointFrequency.name),
    ("enabled", .bool p.enabled),
    ("retention-days", .int p.retentionDays)]

def ErrorPolicy.view (p : ErrorPolicy) : Json :=
  .object [
    ("backoff-strategy", .text p.backoff.name),
    ("continue-on-error", .bool p.continueOnError),
    ("retry-attempts", .int p.retryAttempts),
    ("timeout-seconds", .option (p.timeoutSeconds.map fun n => .int n))]

def Extensions.view? (e : Extensions) : Option Json := do
  return .object [
    ("error_handling", .option (e.errorHandling.map ErrorPolicy.view)),
    ("mcp", .array (← e.mcp.mapM McpServer.view?)),
    ("resume", .option (e.resume.map ResumePolicy.view)),
    ("sub_workflows", .array (← e.subWorkflows.mapM SubWorkflow.view?))]

def SubWorkflowReference.view (r : SubWorkflowReference) : Json :=
  .object [
    ("line_number", .int r.line),
    ("parameters", .object (r.parameters.mapValues .text)),
    ("path", .text r.path)]

def Heading.view (h : Heading) : Json :=
  .object [("level", .int h.level), ("line", .int h.line), ("text", .text h.text)]

namespace Workflow

/-- The JSON view, unless an extension holds a value without a JSON form. -/
def view? (w : Workflow) : Option Json := do
  return .object [
    ("config", w.header.config.view),
    ("contentHash", .text w.contentHash),
    ("extensionKeys", .strings w.header.extensionFields.keys),
    ("extensions", ← w.header.extensions.view?),
    ("hasHeader", .bool w.hasHeader),
    ("model", .option (w.header.model.map .text)),
    ("name", .option (w.header.name.map .text)),
    ("outline", .object [
      ("code_blocks", .int w.content.codeBlocks),
      ("headings", .array (w.content.headings.map Heading.view))]),
    ("parameterReferences", .strings w.content.parameterReferences),
    ("subWorkflowReferences",
      .array (w.content.subWorkflowReferences.map SubWorkflowReference.view)),
    ("toolReferences", .strings w.content.toolReferences),
    ("tools", .strings w.header.tools)]

def quotedTable (t : Table String) : String :=
  "\x7b" ++ ", ".intercalate
    (t.map fun (name, value) => Text.quoteText name ++ ": " ++ Text.quoteText value) ++ "\x7d"

def referenceLine (r : SubWorkflowReference) : String :=
  "  Execute (line " ++ toString r.line ++ "): " ++ r.path ++ " " ++ quotedTable r.parameters

def inspectionLines (w : Workflow) : List String :=
  ["Workflow: " ++ w.displayName,
    "  Hash: " ++ w.contentHash,
    "  Header: " ++ if w.hasHeader then "yes" else "no"] ++
  (w.header.model.map ("  Model: " ++ ·)).toList ++
  (if w.header.tools.isEmpty then [] else ["  Tools: " ++ ", ".intercalate w.header.tools]) ++
  w.header.extensionFields.keys.map ("  Extension: " ++ ·) ++
  ["References:",
    "  Parameters: " ++ ", ".intercalate w.content.parameterReferences,
    "  Tools: " ++ ", ".intercalate w.content.toolReferences] ++
  w.content.subWorkflowReferences.map referenceLine

end Workflow

end Runbook
