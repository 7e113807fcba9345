import Runbook.Validation.Issue
import Runbook.Workflow

/-!
The rules that a workflow is checked against, in groups: its header, its body, its extensions,
the parameters that it refers to, and its tools.
-/

namespace Runbook.Validation

open Registry (mcpKey subWorkflowsKey)

def isInRange (x : Binary64) (high : Nat) : Bool :=
  (Binary64.zero false).le x && x.le (.ofInt high)

def issueIf (condition : Bool) (issue : Issue) : List Issue :=
  if condition then [issue] else []

def indexed {α : Type} (items : List α) : List (Nat × α) := items.zipIdx.map fun (a, i) => (i, a)

def fieldOf (key : String) (index : Nat) (name : String) : String :=
  key ++ "[" ++ toString index ++ "]." ++ name

def hasName (w : Workflow) : Bool :=
  match w.header.name with
  | some name => !Text.isBlankString name
  | none => false

def headerIssues (w : Workflow) : List Issue :=
  let config := w.header.config
  issueIf (w.hasHeader && !hasName w)
      (.inField .missingName "name" "Workflow header must declare a name") ++
    (match config.temperature with
      | some t => issueIf (!isInRange t 2)
          (.inField .temperatureOutOfRange "config.temperature"
            ("Temperature " ++ t.render .message ++ " is outside [0.0, 2.0]"))
      | none => []) ++
    (match config.maxOutputTokens with
      | some n => issueIf (n ≤ 0)
          (.inField .maxOutputTokensInvalid "config.maxOutputTokens"
            ("MaxOutputTokens must be greater than 0, got " ++ toString n))
      | none => []) ++
    (match config.topP with
      | some p => issueIf (!isInRange p 1)
          (.inField .topPOutOfRange "config.topP"
            ("TopP " ++ p.render .message ++ " is outside [0.0, 1.0]"))
      | none => [])

def bodyIssues (w : Workflow) : List Issue :=
  issueIf (!w.content.hasText)
    (.atLine .emptyBody (some w.content.bodyLine)
      "Workflow body is empty: add instructions after the header")

def mcpIssues (index : Nat) (server : McpServer) : List Issue :=
  issueIf (Text.isBlankString server.server)
    (.inField .mcpMissingServer (fieldOf mcpKey index "server")
      ("MCP entry #" ++ toString (index + 1) ++ " has no server identifier"))

def subWorkflowIssues (declared : List String) (index : Nat) (sub : SubWorkflow) : List Issue :=
  let label := sub.name.getD ("#" ++ toString (index + 1))
  issueIf (Text.isBlankString sub.path)
      (.inField .subWorkflowMissingPath (fieldOf subWorkflowsKey index "path")
        ("Sub-workflow " ++ label ++ " has no path")) ++
    (sub.dependsOn.filter fun name => !declared.contains name).map fun name =>
      .inField .unknownDependency (fieldOf subWorkflowsKey index "depends-on")
        ("Sub-workflow " ++ label ++ " depends on undeclared '" ++ name ++ "'")

def extensionIssues (w : Workflow) : List Issue :=
  let extensions := w.header.extensions
  let declared := extensions.subWorkflows.filterMap (·.name)
  (indexed extensions.mcp).flatMap (fun (i, server) => mcpIssues i server) ++
    (indexed extensions.subWorkflows).flatMap (fun (i, sub) => subWorkflowIssues declared i sub) ++
    w.header.unknownExtensions.map fun key =>
      .inField .unknownExtension key
        ("Unrecognized extension key '" ++ key ++ "' is kept but not interpreted")

def rootOf (name : String) : String := .ofList (name.toList.takeWhile (· ≠ '.'))

/-- Whether a reference counts as declared; with `nested`, also when its root is. -/
def isDeclared (nested : Bool) (schema : Table ParameterSpec) (name : String) : Bool :=
  schema.contains name || (nested && schema.contains (rootOf name))

def parameterIssues (nested : Bool) (w : Workflow) : List Issue :=
  let names := w.content.parameterReferences
  match w.header.input.schema with
  | none =>
      issueIf (!names.isEmpty)
        (.inField .inputSchemaMissing "input.schema"
          ("Body references " ++ toString names.length ++
            " parameter(s) but no input schema is defined"))
  | some schema =>
      (names.filter fun name => !isDeclared nested schema name).map fun name =>
        .atLine .undeclaredParameter (w.content.parameterLine? name)
          ("Parameter '" ++ name ++ "' is not declared in input schema")

def unknownToolIssue (tool : String) (field : Option String) : Issue :=
  ⟨.unknownTool, "Tool '" ++ tool ++ "' is not a known tool", none, none, field⟩

/-- Tools are looked at in their order, and one that was seen under another spelling is passed
over. -/
def toolIssuesFrom (extra : Names) (seen : List String) :
    List (String × Option String) → List Issue
  | [] => []
  | (tool, field) :: rest =>
      let name := Registry.normalForm tool
      if seen.contains name then toolIssuesFrom extra seen rest
      else
        issueIf (!(Registry.isBuiltin name || extra.contains name)) (unknownToolIssue tool field) ++
          toolIssuesFrom extra (name :: seen) rest

/-- The tools that the header declares, and those that the body mentions. -/
def toolIssues (extra : Names) (w : Workflow) : List Issue :=
  let declared := (indexed w.header.tools).map fun (i, tool) =>
    (tool, some ("tools[" ++ toString i ++ "]"))
  toolIssuesFrom extra [] (declared ++ w.content.toolReferences.map fun tool => (tool, none))

end Runbook.Validation
