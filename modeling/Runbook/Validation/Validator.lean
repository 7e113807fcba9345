import Runbook.Validation.Rules

/-!
A validator goes through all rules. Its options only silence warnings: more tools may be known,
and a dotted parameter may count as declared through its root.
-/

namespace Runbook

structure Validator where
  /-- Tools that are known besides the built-in ones, in normal form. -/
  extraTools : Names
  nestedParameters : Bool
deriving DecidableEq

namespace Validator

def standard : Validator := ⟨[], false⟩

def withExtraTools (v : Validator) (tools : List String) : Validator :=
  { v with extraTools :=
      tools.foldl (fun names tool => Names.insert (Registry.normalForm tool) names) v.extraTools }

def withNestedParameters (v : Validator) (enabled : Bool) : Validator :=
  { v with nestedParameters := enabled }

def issues (v : Validator) (w : Workflow) : List Issue :=
  Validation.headerIssues w ++ Validation.bodyIssues w ++ Validation.extensionIssues w ++
    Validation.parameterIssues v.nestedParameters w ++ Validation.toolIssues v.extraTools w

def validate (v : Validator) (w : Workflow) : Report := .ofIssues w.sourcePath (v.issues w)

end Validator

end Runbook
