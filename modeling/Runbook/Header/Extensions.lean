import Runbook.Yaml.Decode

/-!
The extensions that a header may declare: servers of tools, other workflows, and the policies
for resuming and for errors.
-/

namespace Runbook

open Yaml (Reading RecordField)

structure McpServer where
  server : String
  version : Option String
  command : Option String
  args : List String
  env : Table String
  config : Table Yaml

namespace McpServer

def empty : McpServer := ⟨"", none, none, [], [], []⟩

def fields : List (RecordField McpServer) := [
  .of ["server"] Yaml.asText fun m s => { m with server := s },
  .of ["version"] (Yaml.asOption Yaml.asText) fun m s => { m with version := s },
  .of ["command"] (Yaml.asOption Yaml.asText) fun m s => { m with command := s },
  .of ["args"] (Yaml.asList Yaml.asText) fun m ss => { m with args := ss },
  .of ["env"] (Yaml.asTable Yaml.asText) fun m t => { m with env := t },
  .of ["config"] (Yaml.asTable Yaml.asAny) fun m t => { m with config := t }]

def read : Reading McpServer := Yaml.asRecord fields empty

end McpServer

structure SubWorkflow where
  name : Option String
  path : String
  parameters : Table Yaml
  dependsOn : List String

namespace SubWorkflow

def empty : SubWorkflow := ⟨none, "", [], []⟩

def fields : List (RecordField SubWorkflow) := [
  .of ["name"] (Yaml.asOption Yaml.asText) fun s n => { s with name := n },
  .of ["path"] Yaml.asText fun s p => { s with path := p },
  .of ["parameters"] (Yaml.asTable Yaml.asAny) fun s t => { s with parameters := t },
  .of ["depends-on"] (Yaml.asList Yaml.asText) fun s ns => { s with dependsOn := ns }]

def read : Reading SubWorkflow := Yaml.asRecord fields empty

end SubWorkflow

inductive CheckpointFrequency
  | afterEachStep
  | afterEachTool
  | manual
deriving DecidableEq

def CheckpointFrequency.name : CheckpointFrequency → String
  | afterEachStep => "after-each-step"
  | afterEachTool => "after-each-tool"
  | manual => "manual"

def CheckpointFrequency.read : Reading CheckpointFrequency :=
  Yaml.asChoice ([.afterEachStep, .afterEachTool, .manual].map fun f => (f.name, f))

/-- Snapshots are kept for a week unless something else is said. -/
def defaultRetentionDays : Nat := 7

structure ResumePolicy where
  enabled : Bool
  checkpointFrequency : CheckpointFrequency
  retentionDays : Nat
deriving DecidableEq

namespace ResumePolicy

def standard : ResumePolicy := ⟨true, .afterEachStep, defaultRetentionDays⟩

def fields : List (RecordField ResumePolicy) := [
  .of ["enabled"] Yaml.asBool fun p b => { p with enabled := b },
  .of ["checkpoint-frequency"] CheckpointFrequency.read
    fun p f => { p with checkpointFrequency := f },
  .of ["retention-days"] (Yaml.asNat isNat32) fun p n => { p with retentionDays := n }]

def read : Reading ResumePolicy := Yaml.asRecord fields standard

end ResumePolicy

inductive Backoff
  | fixed
  | linear
  | exponential
deriving DecidableEq

def Backoff.name : Backoff → String
  | fixed => "fixed"
  | linear => "linear"
  | exponential => "exponential"

def Backoff.read : Reading Backoff :=
  Yaml.asChoice ([.fixed, .linear, .exponential].map fun b => (b.name, b))

structure ErrorPolicy where
  retryAttempts : Nat
  backoff : Backoff
  timeoutSeconds : Option Nat
  continueOnError : Bool
deriving DecidableEq

namespace ErrorPolicy

def standard : ErrorPolicy := ⟨0, .fixed, none, false⟩

def fields : List (RecordField ErrorPolicy) := [
  .of ["retry-attempts"] (Yaml.asNat isNat32) fun p n => { p with retryAttempts := n },
  .of ["backoff-strategy"] Backoff.read fun p b => { p with backoff := b },
  .of ["timeout-seconds"] (Yaml.asOption (Yaml.asNat isNat64))
    fun p n => { p with timeoutSeconds := n },
  .of ["continue-on-error"] Yaml.asBool fun p b => { p with continueOnError := b }]

def read : Reading ErrorPolicy := Yaml.asRecord fields standard

end ErrorPolicy

structure Extensions where
  mcp : List McpServer
  subWorkflows : List SubWorkflow
  resume : Option ResumePolicy
  errorHandling : Option ErrorPolicy

namespace Extensions

def empty : Extensions := ⟨[], [], none, none⟩

def isEmpty (e : Extensions) : Bool :=
  e.mcp.isEmpty && e.subWorkflows.isEmpty && e.resume.isNone && e.errorHandling.isNone

def resumePolicy (e : Extensions) : ResumePolicy := e.resume.getD .standard

def subWorkflow? (e : Extensions) (name : String) : Option SubWorkflow :=
  e.subWorkflows.find? fun s => s.name = some name

end Extensions

end Runbook
