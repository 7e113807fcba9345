import Runbook.Table
import Runbook.Yaml

/-!
Typed readings of YAML values. Tags around scalars, lists and mappings do not count; null
stands for an absent value, an empty list or an empty mapping. A record is read from a mapping
with text keys: a field may have several names, a repeated field is refused, and keys that name
no field are skipped.
-/

namespace Runbook.Yaml

/-- A reading says what is wrong with a value that it refuses. -/
abbrev Reading (α : Type) := Yaml → Except String α

def kind : Yaml → String
  | .null => "null"
  | .bool _ => "a boolean"
  | .number _ => "a number"
  | .text _ => "a string"
  | .list _ => "a list"
  | .map _ => "a mapping"
  | .tagged _ _ => "a tagged value"

def mismatch {α : Type} (wanted : String) (v : Yaml) : Except String α :=
  .error ("invalid type: " ++ kind v ++ ", expected " ++ wanted)

def asAny : Reading Yaml := .ok

def asText : Reading String := fun v =>
  match v.untag with
  | .text s => .ok s
  | v => mismatch "a string" v

def asBool : Reading Bool := fun v =>
  match v.untag with
  | .bool b => .ok b
  | v => mismatch "a boolean" v

def asInt (fits : Int → Bool) : Reading Int := fun v =>
  match v.untag with
  | .number (.int n) => if fits n then .ok n else .error "integer out of range"
  | v => mismatch "an integer" v

def asNat (fits : Int → Bool) : Reading Nat := fun v => do return (← asInt fits v).toNat

def asFloat : Reading Binary64 := fun v =>
  match v.untag with
  | .number n => .ok n.toBinary64
  | v => mismatch "a number" v

def asOption {α : Type} (read : Reading α) : Reading (Option α)
  | .null => .ok none
  | v => do return some (← read v)

def asList {α : Type} (read : Reading α) : Reading (List α) := fun v =>
  match v.untag with
  | .list items => items.mapM read
  | .null => .ok []
  | v => mismatch "a sequence" v

def tableEntries {α : Type} (read : Reading α) (t : Table α) :
    List (Yaml × Yaml) → Except String (Table α)
  | [] => .ok t
  | (k, v) :: rest => do
      let key ← asText k
      let value ← read v
      tableEntries read (t.insert key value) rest

def asTable {α : Type} (read : Reading α) : Reading (Table α) := fun v =>
  match v.untag with
  | .map entries => tableEntries read [] entries
  | .null => .ok []
  | v => mismatch "a map" v

/-- One of several values that are written by name, or as a tag around null. -/
def asChoice {α : Type} (choices : List (String × α)) : Reading α := fun v => do
  let name ← match v with
    | .text s => .ok s
    | .tagged tag inner =>
        match inner.untag with
        | .null => .ok tag
        | inner => mismatch "nothing" inner
    | v => mismatch "a name" v
  match choices.lookup name with
  | some choice => .ok choice
  | none => .error ("unknown variant " ++ name)

/-- A field of a record: its names, and how its value goes into the record. -/
structure RecordField (α : Type) where
  names : List String
  set : Yaml → α → Except String α

def RecordField.of {α β : Type} (names : List String) (read : Reading β)
    (store : α → β → α) : RecordField α :=
  ⟨names, fun v r => do return store r (← read v)⟩

/-- What happens to the entries of a mapping that name no field. -/
abbrev Others (α : Type) := String → Yaml → α → Except String α

def skipOthers {α : Type} : Others α := fun _ _ r => .ok r

def recordEntries {α : Type} (fields : List (RecordField α)) (others : Others α)
    (seen : List String) (r : α) : List (Yaml × Yaml) → Except String α
  | [] => .ok r
  | (k, v) :: rest => do
      let name ← asText k
      match fields.find? (·.names.contains name) with
      | none => recordEntries fields others seen (← others name v r) rest
      | some field =>
          if field.names.any seen.contains then .error ("duplicate field " ++ name)
          else recordEntries fields others (name :: seen) (← field.set v r) rest

/-- A record that starts as `start`; fields that are not there keep their value. -/
def asRecordWith {α : Type} (fields : List (RecordField α)) (others : Others α)
    (start : α) : Reading α := fun v =>
  match v.untag with
  | .map entries => recordEntries fields others [] start entries
  | .null => .ok start
  | v => mismatch "a mapping" v

def asRecord {α : Type} (fields : List (RecordField α)) (start : α) : Reading α :=
  asRecordWith fields skipOthers start

end Runbook.Yaml
