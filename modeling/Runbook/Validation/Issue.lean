import Runbook.Json

/-!
The findings of a validation. The code of a finding decides whether it is an error, which keeps
a workflow from running, or a warning.
-/

namespace Runbook

inductive Severity
  | error
  | warning
deriving DecidableEq

def Severity.name : Severity → String
  | error => "error"
  | warning => "warning"

inductive IssueCode
  | missingName
  | temperatureOutOfRange
  | maxOutputTokensInvalid
  | topPOutOfRange
  | emptyBody
  | mcpMissingServer
  | subWorkflowMissingPath
  | inputSchemaMissing
  | undeclaredParameter
  | unknownTool
  | unknownExtension
  | unknownDependency
deriving DecidableEq

namespace IssueCode

def all : List IssueCode := [
  missingName, temperatureOutOfRange, maxOutputTokensInvalid, topPOutOfRange, emptyBody,
  mcpMissingServer, subWorkflowMissingPath, inputSchemaMissing, undeclaredParameter, unknownTool,
  unknownExtension, unknownDependency]

def name : IssueCode → String
  | missingName => "missing_name"
  | temperatureOutOfRange => "temperature_out_of_range"
  | maxOutputTokensInvalid => "max_output_tokens_invalid"
  | topPOutOfRange => "top_p_out_of_range"
  | emptyBody => "empty_body"
  | mcpMissingServer => "mcp_missing_server"
  | subWorkflowMissingPath => "sub_workflow_missing_path"
  | inputSchemaMissing => "input_schema_missing"
  | undeclaredParameter => "undeclared_parameter"
  | unknownTool => "unknown_tool"
  | unknownExtension => "unknown_extension"
  | unknownDependency => "unknown_dependency"

def ofName? (s : String) : Option IssueCode := all.find? (·.name = s)

def severity : IssueCode → Severity
  | inputSchemaMissing | undeclaredParameter | unknownTool | unknownExtension
  | unknownDependency => .warning
  | _ => .error

def suggestion? : IssueCode → Option String
  | missingName => some "Add \x60name: \"...\"\x60 to the header"
  | temperatureOutOfRange => some "Use a temperature between 0.0 and 2.0"
  | maxOutputTokensInvalid => some "Use a positive maxOutputTokens value"
  | topPOutOfRange => some "Use a topP between 0.0 and 1.0"
  | emptyBody => some "Add instructions after the closing \x60---\x60"
  | mcpMissingServer => some "Set \x60server:\x60 on every markflow.mcp entry"
  | subWorkflowMissingPath => some "Set \x60path:\x60 on every markflow.sub-workflows entry"
  | inputSchemaMissing | undeclaredParameter =>
      some "Declare the parameter under \x60input.schema\x60"
  | unknownTool => some "Check the tool name or add it to validation.extra_tools"
  | unknownExtension | unknownDependency => none

end IssueCode

structure Issue where
  code : IssueCode
  message : String
  line : Option Nat
  column : Option Nat
  /-- The place in the header, such as `config.temperature`. -/
  field : Option String
deriving DecidableEq

namespace Issue

def inField (code : IssueCode) (field message : String) : Issue :=
  ⟨code, message, none, none, some field⟩

def atLine (code : IssueCode) (line : Option Nat) (message : String) : Issue :=
  ⟨code, message, line, none, none⟩

def severity (i : Issue) : Severity := i.code.severity

/-- A column counts only together with a line. -/
def place : Option Nat → Option Nat → String
  | some line, some column => " (line " ++ toString line ++ ", column " ++ toString column ++ ")"
  | some line, none => " (line " ++ toString line ++ ")"
  | none, _ => ""

def render (i : Issue) : String :=
  "[" ++ i.code.name ++ "] " ++ i.message ++ place i.line i.column

def toJson (i : Issue) : Json :=
  .object [
    ("code", .text i.code.name),
    ("column", .option (i.column.map fun n => .int n)),
    ("field", .option (i.field.map .text)),
    ("line", .option (i.line.map fun n => .int n)),
    ("message", .text i.message)]

end Issue

structure Report where
  filePath : Option String
  errors : List Issue
  warnings : List Issue
deriving DecidableEq

namespace Report

def ofIssues (filePath : Option String) (issues : List Issue) : Report :=
  ⟨filePath, issues.filter (·.severity = .error), issues.filter (·.severity = .warning)⟩

def isValid (r : Report) : Bool := r.errors.isEmpty

def hasWarnings (r : Report) : Bool := !r.warnings.isEmpty

def hasCode (r : Report) (code : IssueCode) : Bool :=
  (r.errors ++ r.warnings).any (·.code = code)

def errorSummary (r : Report) : String := "; ".intercalate (r.errors.map (·.message))

def toJson (r : Report) : Json :=
  .object [
    ("errors", .array (r.errors.map Issue.toJson)),
    ("file_path", .option (r.filePath.map .text)),
    ("warnings", .array (r.warnings.map Issue.toJson))]

end Report

end Runbook
