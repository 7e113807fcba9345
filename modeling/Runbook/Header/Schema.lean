import Runbook.Yaml.Decode

/-!
The settings of the model, the inputs and the output that a header declares.
-/

namespace Runbook

open Yaml (Reading RecordField)

/-- The settings that a header gives to the model; what it leaves out is up to the model. -/
structure ModelConfig where
  temperature : Option Binary64
  maxOutputTokens : Option Int
  topP : Option Binary64
  stopSequences : List String
deriving DecidableEq

namespace ModelConfig

def empty : ModelConfig := ⟨none, none, none, []⟩

def isEmpty (c : ModelConfig) : Bool := c == empty

def fields : List (RecordField ModelConfig) := [
  .of ["temperature"] (Yaml.asOption Yaml.asFloat) fun c x => { c with temperature := x },
  .of ["maxOutputTokens", "max_output_tokens", "max-output-tokens"]
    (Yaml.asOption (Yaml.asInt isInt64)) fun c n => { c with maxOutputTokens := n },
  .of ["topP", "top_p", "top-p"] (Yaml.asOption Yaml.asFloat) fun c x => { c with topP := x },
  .of ["stopSequences", "stop_sequences", "stop-sequences"] (Yaml.asList Yaml.asText)
    fun c xs => { c with stopSequences := xs }]

def read : Reading ModelConfig := Yaml.asRecord fields empty

end ModelConfig

structure ParameterSpec where
  type : Option String
  choices : List Yaml
  default : Option Yaml
  description : Option String
  required : Bool

namespace ParameterSpec

def empty : ParameterSpec := ⟨none, [], none, none, false⟩

def fields : List (RecordField ParameterSpec) := [
  .of ["type"] (Yaml.asOption Yaml.asText) fun p s => { p with type := s },
  .of ["enum"] (Yaml.asList Yaml.asAny) fun p vs => { p with choices := vs },
  .of ["default"] (Yaml.asOption Yaml.asAny) fun p v => { p with default := v },
  .of ["description"] (Yaml.asOption Yaml.asText) fun p s => { p with description := s },
  .of ["required"] Yaml.asBool fun p b => { p with required := b }]

def read : Reading ParameterSpec := Yaml.asRecord fields empty

end ParameterSpec

/-- The inputs of a workflow: values that hold unless others are given, and declarations. A
header without declarations differs from one that declares nothing. -/
structure InputSpec where
  default : Table Yaml
  schema : Option (Table ParameterSpec)

namespace InputSpec

def empty : InputSpec := ⟨[], none⟩

def fields : List (RecordField InputSpec) := [
  .of ["default"] (Yaml.asTable Yaml.asAny) fun i t => { i with default := t },
  .of ["schema"] (Yaml.asOption (Yaml.asTable ParameterSpec.read))
    fun i t => { i with schema := t }]

def read : Reading InputSpec := Yaml.asRecord fields empty

def declaration? (i : InputSpec) (name : String) : Option ParameterSpec := do
  (← i.schema).find? name

def declares (i : InputSpec) (name : String) : Bool := (i.declaration? name).isSome

/-- A value listed by itself goes before the one in the declaration. -/
def defaultFor? (i : InputSpec) (name : String) : Option Yaml :=
  match i.default.find? name with
  | some v => some v
  | none => do (← i.declaration? name).default

end InputSpec

structure OutputSpec where
  format : Option String
  schema : Option Yaml

namespace OutputSpec

def empty : OutputSpec := ⟨none, none⟩

def fields : List (RecordField OutputSpec) := [
  .of ["format"] (Yaml.asOption Yaml.asText) fun o s => { o with format := s },
  .of ["schema"] (Yaml.asOption Yaml.asAny) fun o v => { o with schema := v }]

def read : Reading OutputSpec := Yaml.asRecord fields empty

end OutputSpec

end Runbook
