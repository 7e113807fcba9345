import Runbook.Command.Arguments
import Runbook.Config
import Runbook.Inspection

/-!
The commands of the program: workflows are validated and shown, and stored runs are listed,
checked against a document and cleaned up. A command gives lines of output and an ending; only
cleaning up changes the workspace.
-/

namespace Runbook

inductive Command
  | validate (file : String)
  | inspect (file : String) (json : Bool)
  | listRuns
  | checkRun (runId file : String) (force : Bool)
  | cleanRuns (days : Option Nat)
deriving DecidableEq

inductive Ending
  | success
  | failure (e : Error)
  /-- There is no way to show what was asked for. -/
  | crash
  /-- The arguments describe no command. -/
  | misuse
deriving DecidableEq

def Ending.status : Ending → Nat
  | success => 0
  | failure _ => 1
  | misuse => 2
  | crash => 101

structure Transcript where
  lines : List String
  ending : Ending
deriving DecidableEq

namespace Transcript

def ok (lines : List String) : Transcript := ⟨lines, .success⟩

def failed (e : Error) : Transcript := ⟨[], .failure e⟩

def output (t : Transcript) : String := String.join (t.lines.map (· ++ "\n"))

end Transcript

namespace Command

open Arguments

def helpOption : OptionForm := ⟨"help", some 'h', .stop .help⟩

def versionOption : OptionForm := ⟨"version", some 'V', .stop .version⟩

def readDays (s : String) : Option Nat := do
  let (negative, digits) := match s.toList with
    | '-' :: rest => (true, rest)
    | '+' :: rest => (false, rest)
    | digits => (false, digits)
  let n ← Text.natural? 10 digits
  if isNat32 n && (!negative || n == 0) then some n else none

def anything (_ : String) : Bool := true

def notEmpty (s : String) : Bool := !s.isEmpty

def readHelp : List String → Stop
  | [] | ["validate"] | ["inspect"] | ["resume"] | ["help"] => .help
  | ["resume", name] =>
      if ["list", "check", "clean", "help"].contains name then .help else .misuse
  | _ => .misuse

def readResume : List String → Except Stop Command
  | "list" :: args => do
      let _ ← read [helpOption] [] args
      return listRuns
  | "check" :: args => do
      let t ← read [⟨"force", some 'f', .switch⟩, helpOption] [anything, notEmpty] args
      match t.others with
      | [runId, file] => return checkRun runId file (t.has "force")
      | _ => throw .misuse
  | "clean" :: args => do
      let days := ⟨"days", some 'd', .value fun s => (readDays s).isSome⟩
      let t ← read [days, helpOption] [] args
      return cleanRuns ((t.value? "days").bind readDays)
  | "help" :: args => throw (readHelp ("resume" :: args))
  | args => do
      let _ ← read [helpOption] [] args
      throw .misuse

def ofArguments : List String → Except Stop Command
  | "validate" :: args => do
      let t ← read [helpOption] [notEmpty] args
      match t.others with
      | [file] => return validate file
      | _ => throw .misuse
  | "inspect" :: args => do
      let t ← read [⟨"json", none, .switch⟩, helpOption] [notEmpty] args
      match t.others with
      | [file] => return inspect file (t.has "json")
      | _ => throw .misuse
  | "resume" :: args => readResume args
  | "help" :: args => throw (readHelp args)
  | args => do
      let _ ← read [versionOption, helpOption] [] args
      throw .misuse

def issueLines (label : String) (i : Issue) : List String :=
  ("  " ++ label ++ " " ++ i.render) ::
    (i.code.suggestion?.map ("      Fix: " ++ ·)).toList

def reportLines (r : Report) : List String :=
  r.errors.flatMap (issueLines "error") ++ r.warnings.flatMap (issueLines "warning")

def validLines (w : Workflow) (r : Report) : List String :=
  ["✓ Workflow '" ++ w.displayName ++ "' is valid",
    "  Model: " ++ w.header.model.getD "(default)",
    "  Tools: " ++ toString w.header.tools.length,
    "  Parameters: " ++ toString w.content.parameterReferences.length,
    "  Sub-workflows: " ++ toString w.content.subWorkflowReferences.length] ++
  if r.hasWarnings then ["  Warnings: " ++ toString r.warnings.length] else []

def runValidate (c : Config) (w : Workspace) (file : String) : Transcript :=
  match w.workflow file with
  | .error e => .failed e
  | .ok workflow =>
      let report := c.validator.validate workflow
      if report.isValid then .ok (reportLines report ++ validLines workflow report)
      else ⟨reportLines report,
        .failure (.validationFailed report.errors.length report.errorSummary)⟩

def runInspect (w : Workspace) (file : String) (json : Bool) : Transcript :=
  match w.workflow file with
  | .error e => .failed e
  | .ok workflow =>
      if json then
        match workflow.view? with
        | some view => .ok [view.render]
        | none => ⟨[], .crash⟩
      else .ok workflow.inspectionLines

def column (width : Nat) (s : String) : String :=
  s ++ .ofList (List.replicate (width - s.length) ' ')

def tableLine (runId checkpoint file : String) : String :=
  column 32 runId ++ " " ++ column 24 checkpoint ++ " " ++ file

def runLine (s : Snapshot) (runId : String) : String :=
  tableLine runId (s.lastCheckpoint.renderDate ++ " " ++ s.lastCheckpoint.renderClock) s.filePath

variable {σ : Type} [SnapshotStore σ]

/-- The lines of the table, up to a run that cannot be read. -/
def runLines (store : σ) : List String → List String × Ending
  | [] => ([], .success)
  | runId :: rest =>
      match SnapshotStore.read store runId with
      | .error e => ([], .failure e)
      | .ok s =>
          let (lines, ending) := runLines store rest
          ((s.map (runLine · runId)).toList ++ lines, ending)

def runList (store : σ) : Transcript :=
  match SnapshotStore.available store with
  | .error e => .failed e
  | .ok [] => .ok ["No resumable runs"]
  | .ok runs =>
      let (lines, ending) := runLines store runs
      ⟨["Found " ++ toString runs.length ++ " resumable run(s):", "",
          tableLine "RUN ID" "LAST CHECKPOINT" "WORKFLOW", .ofList (List.replicate 80 '-')] ++
        lines, ending⟩

def verdict : Compatibility → String
  | .agrees => "compatible"
  | .noStoredHash => "compatible (no stored hash)"
  | .firstRun | .differs _ _ => "forced"

def checkLines (runId : String) (verdict : Compatibility) (ctx : RunContext)
    (conversation : Conversation) : List String :=
  ["✓ Run '" ++ runId ++ "' can resume: " ++ Command.verdict verdict,
    "  Current step: " ++ ctx.currentStep.getD "(none)",
    "  Messages: " ++ toString conversation.length,
    "  Variables: " ++ toString ctx.vars.length]

/-- The document may have any name. -/
def runCheck (store : σ) (w : Workspace) (runId file : String) (force : Bool) :
    Except Error (List String) := do
  let text ← w.text file
  let verdict := Compatibility.check (← SnapshotStore.read store runId) text
  let (ctx, conversation) ← SnapshotStore.prepareResume store runId text force
  return checkLines runId verdict ctx conversation

def runClean (c : Config) (store : σ) (days : Option Nat) (now : Instant) : Transcript × σ :=
  let seconds := (days.map (· * 86400)).getD c.retentionSeconds
  match SnapshotStore.cleanup store seconds now with
  | (.error e, store) => (.failed e, store)
  | (.ok count, store) => (.ok ["Removed " ++ toString count ++ " snapshot(s)"], store)

def run (command : Command) (c : Config) (w : Workspace) (now : Instant) :
    Transcript × Workspace :=
  let store := c.store w
  match command with
  | validate file => (runValidate c w file, w)
  | inspect file json => (runInspect w file json, w)
  | listRuns => (runList store, w)
  | checkRun runId file force =>
      match runCheck store w runId file force with
      | .error e => (.failed e, w)
      | .ok lines => (.ok lines, w)
  | cleanRuns days =>
      let (transcript, store) := runClean c store days now
      (transcript, store.workspace)

def file? : Command → Option String
  | validate file | inspect file _ | checkRun _ file _ => some file
  | listRuns | cleanRuns _ => none

def usesStore : Command → Bool
  | validate _ | inspect _ _ => false
  | listRuns | checkRun _ _ _ | cleanRuns _ => true

def settings (w : Workspace) (configPath : String) (env : Environment) : Except Error Config := do
  (← Config.load w configPath).withEnvironment env

def versionLine : String := "markflow 0.1.0"

def helpLines : List String := [
  "Markflow - Markdown workflow documents with resumable execution",
  "",
  "Usage: markflow <COMMAND>",
  "",
  "Commands:",
  "  validate FILE                     Validate a workflow file",
  "  inspect FILE [--json]             Show the parsed header and body references",
  "  resume list                       List runs that can be resumed",
  "  resume check RUN_ID FILE [-f]     Check whether a run can resume against a workflow file",
  "  resume clean [-d DAYS]            Delete old snapshots"]

/-- The whole program. Settings are read only when the arguments make sense. -/
def carryOut (args : List String) (configPath : String) (env : Environment) (w : Workspace)
    (now : Instant) : Transcript × Workspace :=
  match ofArguments args with
  | .error .help => (.ok helpLines, w)
  | .error .version => (.ok [versionLine], w)
  | .error .misuse => (⟨[], .misuse⟩, w)
  | .ok command =>
      match settings w configPath env with
      | .error e => (.failed e, w)
      | .ok c => command.run c w now

end Command

end Runbook
