import Runbook.Store.Selected
import Runbook.Toml.Document
import Runbook.Validation.Validator

/-!
The settings of the program: defaults, then what a TOML file says, then what the environment
says. Settings that are not known are passed over.
-/

namespace Runbook

structure Config where
  backend : Backend
  stateDir : String
  retentionDays : Nat
  extraTools : List String
  nestedParameters : Bool

structure Environment where
  stateDir : Option String
  backend : Option String

namespace Config

def standard : Config := ⟨.file, ".markflow/state", 7, [], false⟩

/-- The fields that a value gives of a record: by name in a table, by position in an array. A
date has no fields. -/
def fields? (names : List String) : Toml → Option (Table Toml)
  | .table entries => some entries
  | .array items => some (names.zip items)
  | .datetime _ => some []
  | _ => none

def field {α : Type} (fields : Table Toml) (name : String) (default : α)
    (read : Toml → Option α) : Option α :=
  match fields.find? name with
  | none => some default
  | some v => read v

def asText : Toml → Option String
  | .text s => some s
  | _ => none

def asBool : Toml → Option Bool
  | .bool b => some b
  | _ => none

def asNat32 : Toml → Option Nat
  | .int n => if isNat32 n then some n.toNat else none
  | _ => none

def asTexts : Toml → Option (List String)
  | .array items => items.mapM asText
  | _ => none

/-- A backend by its name, which may also be the one key of a table with nothing in it. -/
def asBackend : Toml → Option Backend
  | .text s => Backend.ofName? s
  | .table [(s, .table [])] | .table [(s, .array [])] => Backend.ofName? s
  | _ => none

def readResume (c : Config) (v : Toml) : Option Config := do
  let fields ← fields? ["backend", "state_dir", "retention_days"] v
  return { c with
    backend := ← field fields "backend" c.backend asBackend
    stateDir := ← field fields "state_dir" c.stateDir asText
    retentionDays := ← field fields "retention_days" c.retentionDays asNat32 }

def readValidation (c : Config) (v : Toml) : Option Config := do
  let fields ← fields? ["extra_tools", "nested_parameters"] v
  return { c with
    extraTools := ← field fields "extra_tools" c.extraTools asTexts
    nestedParameters := ← field fields "nested_parameters" c.nestedParameters asBool }

def ofTables (tables : Table Toml) : Option Config := do
  let c ← field tables "resume" standard (readResume standard)
  field tables "validation" c (readValidation c)

def read (text : String) : Option Config := do ofTables (← Toml.read text)

def load (w : Workspace) (path : String) : Except Error Config :=
  match w.find path with
  | .error _ => .ok standard
  | .ok (.file (some text) _) =>
      match read text with
      | some c => .ok c
      | none => .error (.config "Failed to parse config file: it does not hold settings")
  | .ok _ => .error (.config "Failed to read config file: it cannot be read as text")

/-- A backend named by a person, without regard to case and white space. -/
def readBackend (s : String) : Except Error Backend :=
  let name := Text.lowered (Text.trimmed s)
  match Backend.ofName? name with
  | some backend => .ok backend
  | none =>
      .error (.config ("Unknown resume backend '" ++ name ++ "'. Available: file, memory"))

/-- Empty variables say nothing. -/
def withEnvironment (c : Config) (env : Environment) : Except Error Config := do
  let c := match env.stateDir with
    | some dir => if dir.isEmpty then c else { c with stateDir := dir }
    | none => c
  match env.backend with
  | some name =>
      if name.isEmpty then return c
      else return { c with backend := ← readBackend name }
  | none => return c

def retentionSeconds (c : Config) : Nat := c.retentionDays * 86400

def isStandard (c : Config) : Bool :=
  c.backend = standard.backend && Path.same c.stateDir standard.stateDir &&
    c.retentionDays = standard.retentionDays && c.extraTools = standard.extraTools &&
    c.nestedParameters = standard.nestedParameters

def store (c : Config) (w : Workspace) : SelectedStore := ⟨c.backend, w, c.stateDir, [], false⟩

def validator (c : Config) : Validator :=
  (Validator.standard.withExtraTools c.extraTools).withNestedParameters c.nestedParameters

def toJson (c : Config) : Json :=
  .object [
    ("resume", .object [
      ("backend", .text c.backend.name),
      ("retention_days", .int c.retentionDays),
      ("state_dir", .text c.stateDir)]),
    ("validation", .object [
      ("extra_tools", .strings c.extraTools),
      ("nested_parameters", .bool c.nestedParameters)])]

end Config

end Runbook
