/-!
What can go wrong with a workflow document, a saved run or the program's settings: the cause,
a code for each kind of cause, the message, and advice.
-/

namespace Runbook

inductive Error
  | headerSyntax (details : String) (line column : Option Nat)
  | emptyDocument
  | workflowNotFound (path : String)
  | unsupportedFile (path : String)
  | headerType (field target details : String)
  | validationFailed (count : Nat) (summary : String)
  | snapshotNotFound (runId : String)
  | incompatibleSnapshot (runId stored current : String)
  | corruptSnapshot (path details : String)
  | invalidRunId (runId reason : String)
  | orchestrator (reason : String)
  | config (reason : String)
  | io (details : String)
  | json (details : String)
  | cancelled
deriving DecidableEq

namespace Error

def code : Error → String
  | headerSyntax .. => "MKF-001"
  | emptyDocument => "MKF-002"
  | workflowNotFound _ => "MKF-003"
  | unsupportedFile _ => "MKF-004"
  | headerType .. => "MKF-005"
  | validationFailed .. => "MKF-006"
  | snapshotNotFound _ => "MKF-020"
  | incompatibleSnapshot .. => "MKF-021"
  | corruptSnapshot .. => "MKF-022"
  | invalidRunId .. => "MKF-023"
  | orchestrator _ => "MKF-030"
  | config _ => "MKF-040"
  | io _ => "MKF-090"
  | json _ => "MKF-091"
  | cancelled => "MKF-092"

/-- A column counts only together with a line. -/
def place : Option Nat → Option Nat → String
  | some line, some column => " at line " ++ toString line ++ ", column " ++ toString column
  | some line, none => " at line " ++ toString line
  | none, _ => ""

def text : Error → String
  | headerSyntax details line column =>
      "Failed to parse workflow header" ++ place line column ++ ": " ++ details
  | emptyDocument => "Workflow document is empty"
  | workflowNotFound path => "Workflow file not found: " ++ path
  | unsupportedFile path => "Unsupported workflow file type: " ++ path
  | headerType field target details =>
      "Header field '" ++ field ++ "' cannot be read as " ++ target ++ ": " ++ details
  | validationFailed count summary =>
      "Workflow validation failed with " ++ toString count ++ " error(s): " ++ summary
  | snapshotNotFound runId => "No saved state for run '" ++ runId ++ "'"
  | incompatibleSnapshot runId stored current =>
      "Saved state for run '" ++ runId ++ "' was created against a different document (" ++
        stored ++ " != " ++ current ++ ")"
  | corruptSnapshot path details => "Snapshot '" ++ path ++ "' is unreadable: " ++ details
  | invalidRunId runId reason => "Invalid run id '" ++ runId ++ "': " ++ reason
  | orchestrator reason => "Orchestrator error: " ++ reason
  | config reason => "Config error: " ++ reason
  | io details => "IO error: " ++ details
  | json details => "JSON error: " ++ details
  | cancelled => "Operation cancelled"

def message (e : Error) : String := "[" ++ e.code ++ "] " ++ e.text

/-- After a fatal error there is no workflow at all. -/
def isFatal : Error → Bool
  | headerSyntax .. | emptyDocument | workflowNotFound _ | unsupportedFile _ | headerType .. =>
      true
  | _ => false

def line? : Error → Option Nat
  | headerSyntax _ line _ => line
  | _ => none

def column? : Error → Option Nat
  | headerSyntax _ _ column => column
  | _ => none

def fix? : Error → Option String
  | headerSyntax .. => some "Check front matter YAML syntax: indentation and quoting"
  | emptyDocument => some "Add instructions to the workflow body"
  | workflowNotFound _ => some "Check the file path exists"
  | unsupportedFile _ => some "Workflow files must use the .prompt.md or .md extension"
  | headerType .. =>
      some "Check the field's shape: lists use '- item', maps use 'key: value'"
  | validationFailed .. => some "Run 'markflow validate <file>' for the full list of issues"
  | snapshotNotFound _ => some "Run 'markflow resume list' to see resumable runs"
  | incompatibleSnapshot .. => some "Restore the original workflow file or force the resume"
  | corruptSnapshot .. => some "Delete the snapshot file and start a new run"
  | invalidRunId .. => some "Run ids may only contain letters, digits, '-' and '_'"
  | orchestrator _ => none
  | config _ => some "Check ~/.config/markflow/config.toml syntax"
  | io _ => some "Check file path and permissions"
  | json _ => none
  | cancelled => none

def diagnostic? : Error → Option String
  | headerSyntax .. => some "markflow::parse_error"
  | emptyDocument => some "markflow::empty_document"
  | workflowNotFound _ => some "markflow::workflow_not_found"
  | unsupportedFile _ => some "markflow::invalid_file_type"
  | headerType .. => some "markflow::header_type"
  | validationFailed .. => some "markflow::validation_failed"
  | snapshotNotFound _ => some "markflow::snapshot_not_found"
  | incompatibleSnapshot .. => some "markflow::incompatible_snapshot"
  | corruptSnapshot .. => some "markflow::corrupt_snapshot"
  | invalidRunId .. => some "markflow::invalid_run_id"
  | orchestrator _ => some "markflow::orchestrator"
  | config _ => some "markflow::config"
  | io _ | json _ | cancelled => none

def help? : Error → Option String
  | headerSyntax .. => some "Check front matter YAML syntax: indentation and quoting"
  | workflowNotFound _ => some "Check the file path exists"
  | incompatibleSnapshot .. =>
      some "The workflow file changed since the checkpoint; force the resume or start a new run"
  | _ => none

end Error

end Runbook
