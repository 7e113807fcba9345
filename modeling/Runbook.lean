import Runbook.Command
import Runbook.Command.Arguments
import Runbook.Config
import Runbook.Digest
import Runbook.Document.Content
import Runbook.Document.FrontMatter
import Runbook.Document.Outline
import Runbook.Document.Reference
import Runbook.Engine
import Runbook.Error
import Runbook.Header
import Runbook.Header.Extensions
import Runbook.Header.Metadata
import Runbook.Header.Schema
import Runbook.Inspection
import Runbook.Json
import Runbook.Json.Datum
import Runbook.Json.Members
import Runbook.Json.Printer
import Runbook.Json.Reader
import Runbook.Json.Source
import Runbook.Main
import Runbook.Number
import Runbook.Number.Binary64
import Runbook.Number.Decimal
import Runbook.Orchestrator
import Runbook.Path
import Runbook.Proofs.BackendAgreement
import Runbook.Proofs.BlankHeaders
import Runbook.Proofs.CalendarDates
import Runbook.Proofs.CaptureRestore
import Runbook.Proofs.CleanNames
import Runbook.Proofs.CleanupInterleaving
import Runbook.Proofs.CleanupLaws
import Runbook.Proofs.CompatibilityGates
import Runbook.Proofs.DamagedSnapshots
import Runbook.Proofs.DecimalValue
import Runbook.Proofs.DeclaredDefaults
import Runbook.Proofs.DirectoryView
import Runbook.Proofs.DisplayNames
import Runbook.Proofs.DocumentPositions
import Runbook.Proofs.ExecutionGate
import Runbook.Proofs.FencedBlocks
import Runbook.Proofs.FileContract
import Runbook.Proofs.FileWriting
import Runbook.Proofs.FloatRange
import Runbook.Proofs.FolderSweep
import Runbook.Proofs.FreshRun
import Runbook.Proofs.HeaderEntries
import Runbook.Proofs.HeaderGrammar
import Runbook.Proofs.HeaderModels
import Runbook.Proofs.HeaderValues
import Runbook.Proofs.InspectionView
import Runbook.Proofs.InstantText
import Runbook.Proofs.JsonKeys
import Runbook.Proofs.KeyTexts
import Runbook.Proofs.LinePatterns
import Runbook.Proofs.MemoryContract
import Runbook.Proofs.NumberOrder
import Runbook.Proofs.NumberText
import Runbook.Proofs.NumeralReading
import Runbook.Proofs.OutlineFindings
import Runbook.Proofs.OutlineLines
import Runbook.Proofs.OutlineReading
import Runbook.Proofs.OwnSnapshot
import Runbook.Proofs.ParameterReferences
import Runbook.Proofs.ParameterWarnings
import Runbook.Proofs.PatternMatching
import Runbook.Proofs.ReadingRounds
import Runbook.Proofs.RecordEdits
import Runbook.Proofs.ReferenceScan
import Runbook.Proofs.Repinning
import Runbook.Proofs.ResumeGate
import Runbook.Proofs.RetentionLimits
import Runbook.Proofs.Rounding
import Runbook.Proofs.RuleTable
import Runbook.Proofs.RunEffects
import Runbook.Proofs.RunEnding
import Runbook.Proofs.ShortestDigits
import Runbook.Proofs.SnapshotFolder
import Runbook.Proofs.SnapshotHistory
import Runbook.Proofs.SnapshotNames
import Runbook.Proofs.SnapshotPaths
import Runbook.Proofs.SnapshotRoundTrip
import Runbook.Proofs.SnapshotText
import Runbook.Proofs.SortedTables
import Runbook.Proofs.StoreContract
import Runbook.Proofs.StoreOperations
import Runbook.Proofs.StoreSimulation
import Runbook.Proofs.StoredSnapshots
import Runbook.Proofs.StringReading
import Runbook.Proofs.TextContents
import Runbook.Proofs.TextLines
import Runbook.Proofs.ToolMentions
import Runbook.Proofs.ToolNames
import Runbook.Proofs.ToolWarnings
import Runbook.Proofs.TreeReading
import Runbook.Proofs.ValidatorOptions
import Runbook.Proofs.ValueReading
import Runbook.Proofs.VariableCoercion
import Runbook.Proofs.VariableForms
import Runbook.Proofs.WorkflowReading
import Runbook.Proofs.WriteFaults
import Runbook.Registry
import Runbook.Run.Codec
import Runbook.Run.Compatibility
import Runbook.Run.Id
import Runbook.Run.Snapshot
import Runbook.Run.Variable
import Runbook.Store.Basic
import Runbook.Store.File
import Runbook.Store.Memory
import Runbook.Store.Selected
import Runbook.Table
import Runbook.Text.Blank
import Runbook.Text.Digits
import Runbook.Text.Quoted
import Runbook.Text.Ranges
import Runbook.Time.Duration
import Runbook.Time.Instant
import Runbook.Time.Rfc3339
import Runbook.Toml
import Runbook.Toml.Document
import Runbook.Toml.Scalar
import Runbook.Validation.Issue
import Runbook.Validation.Rules
import Runbook.Validation.Validator
import Runbook.Workflow
import Runbook.Workspace
import Runbook.Yaml
import Runbook.Yaml.Decode
import Runbook.Yaml.Document
import Runbook.Yaml.Event
import Runbook.Yaml.Fault
import Runbook.Yaml.Scalar
import Runbook.Yaml.ToJson
import Runbook.Yaml.Token
import Runbook.Proofs.ReadingRounds
