import Runbook.Error
import Runbook.Header.Extensions
import Runbook.Header.Metadata
import Runbook.Header.Schema
import Runbook.Registry
import Runbook.Text.Blank
import Runbook.Yaml.Document

/-!
The header of a workflow document, read in three passes: every key with its value, the keys
with a typed model, and the reserved extension keys. Null means that a key is not set; keys
without a model are kept and change nothing else.
-/

namespace Runbook

structure Header where
  fields : Table Yaml
  name : Option String
  model : Option String
  tools : List String
  config : ModelConfig
  input : InputSpec
  output : Option OutputSpec
  metadata : Metadata
  /-- The reserved keys, with or without a meaning. -/
  extensionFields : Table Yaml
  extensions : Extensions

namespace Header

def empty : Header := ⟨[], none, none, [], .empty, .empty, none, .empty, [], .empty⟩

def asTools : Yaml.Reading (List String)
  | .text s => .ok [s]
  | .list items => items.mapM fun
      | .text s => .ok s
      | v => Yaml.mismatch "a tool name" v
  | v => Yaml.mismatch "a tool name or a list of them" v

def keyText? : Yaml → Option String
  | .text s => some s
  | .number n => some (n.render .header)
  | .bool b => some (if b then "true" else "false")
  | _ => none

def collect (line : Nat) (t : Table Yaml) : List (Yaml × Yaml) → Except Error (Table Yaml)
  | [] => .ok t
  | (k, v) :: rest =>
      match keyText? k with
      | some key => collect line (t.insert key v) rest
      | none =>
          .error (.headerSyntax ("header keys must be scalars, got " ++ k.kind) (some line) none)

/-- The first pass. `line` is the line of the document that the header begins on. -/
def readFields (text : String) (line : Nat) : Except Error (Table Yaml) :=
  if Text.isBlankString text then .ok []
  else match Yaml.read text with
    | .error fault =>
        .error (.headerSyntax fault.message
          (fault.location?.map fun place => max line 1 + (place.1 - 1))
          (fault.location?.map (·.2)))
    | .ok .null => .ok []
    | .ok (.map entries) => collect line [] entries
    | .ok v =>
        .error (.headerSyntax ("header must be a key/value mapping, got " ++ v.kind)
          (some line) none)

def typed {α : Type} (fields : Table Yaml) (key target : String) (read : Yaml.Reading α) :
    Except Error (Option α) :=
  match fields.find? key with
  | none | some .null => .ok none
  | some v =>
      match read v with
      | .ok a => .ok (some a)
      | .error details => .error (.headerType key target details)

/-- The second and the third pass. -/
def ofFields (fields : Table Yaml) : Except Error Header := do
  let name ← typed fields "name" "string" Yaml.asText
  let model ← typed fields "model" "string" Yaml.asText
  let tools ← typed fields "tools" "list of tool names" asTools
  let config ← typed fields "config" "model config" ModelConfig.read
  let input ← typed fields "input" "input spec" InputSpec.read
  let output ← typed fields "output" "output spec" OutputSpec.read
  let metadata ← typed fields "metadata" "metadata map" Metadata.read
  let mcp ← typed fields Registry.mcpKey "list of MCP servers" (Yaml.asList McpServer.read)
  let subWorkflows ← typed fields Registry.subWorkflowsKey "list of sub-workflows"
    (Yaml.asList SubWorkflow.read)
  let resume ← typed fields Registry.resumeKey "resume policy" ResumePolicy.read
  let errorHandling ← typed fields Registry.errorHandlingKey "error-handling policy"
    ErrorPolicy.read
  return {
    fields, name, model, output, tools := tools.getD [], config := config.getD .empty,
    input := input.getD .empty, metadata := metadata.getD .empty,
    extensionFields := fields.filter fun entry => Registry.isExtensionKey entry.1,
    extensions := ⟨mcp.getD [], subWorkflows.getD [], resume, errorHandling⟩ }

def read (text : String) (line : Nat) : Except Error Header := do
  ofFields (← readFields text line)

def unknownExtensions (h : Header) : List String :=
  h.extensionFields.keys.filter fun key => !Registry.isKnownExtension key

end Header

end Runbook
