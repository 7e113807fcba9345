import Runbook.Yaml.Decode

/-!
The descriptive part of a header. Texts may be written as numbers or truth values, and keys
without a meaning of their own are kept.
-/

namespace Runbook

open Yaml (Reading RecordField Others)

structure Metadata where
  description : Option String
  author : Option String
  version : Option String
  tags : List String
  extra : Table Yaml

namespace Metadata

def empty : Metadata := ⟨none, none, none, [], []⟩

def asScalar : Reading String
  | .text s => .ok s
  | .number n => .ok (n.render .header)
  | .bool b => .ok (if b then "true" else "false")
  | v => .error ("expected a string, number or boolean, found " ++ match v with
      | .null => "null"
      | .list _ => "a sequence"
      | .map _ => "a mapping"
      | .tagged _ _ => "a tagged value"
      | _ => "a scalar")

def fields : List (RecordField Metadata) := [
  .of ["description"] (Yaml.asOption asScalar) fun m s => { m with description := s },
  .of ["author"] (Yaml.asOption asScalar) fun m s => { m with author := s },
  .of ["version"] (Yaml.asOption asScalar) fun m s => { m with version := s },
  .of ["tags"] (Yaml.asList asScalar) fun m ss => { m with tags := ss }]

/-- Other keys are kept, but no tags within their values. -/
def keep : Others Metadata := fun name v m =>
  if v.hasTag then .error "tagged values are not supported here"
  else .ok { m with extra := m.extra.insert name v }

def read : Reading Metadata := Yaml.asRecordWith fields keep empty

end Metadata

end Runbook
