import Runbook.Proofs.DocumentPositions
import Runbook.Proofs.ReferenceScan
import Runbook.Proofs.RuleTable

/-!
The warnings on parameters. A body that refers to parameters is measured by the schema of the
inputs: without a schema there is one warning for all of them, and with one there is a warning for
each name that it does not declare, in ascending order of the names. Such a warning has a line,
which is the one that the name stands on for the first time.
-/

namespace Runbook

open Text Document Validation FrontMatter

/-- The line of a parameter is that of its first place in the body. -/
theorem Content.firstBehind_of_parameterLine? {c : Content} {name : String} {n : Nat}
    (h : c.parameterLine? name = some n) : ∃ front,
      FirstBehind (token name.toList) c.body.toList front ∧ n = c.bodyLine + lineFeeds front := by
  obtain ⟨hle, ⟨line, hline, hfound⟩, hbefore⟩ := parameterLine?_eq_some_iff.mp h
  obtain ⟨hname, htoken⟩ := contains_parameterReferences.mp hfound
  have hbody : token name.toList <:+: c.body.toList :=
    (token_infix_iff_lines hname _).mpr ⟨line, List.mem_of_getElem? hline, htoken⟩
  obtain ⟨front, hfront⟩ := exists_firstBehind hbody
  have hreturn : (token name.toList).getLast? ≠ some '\r' := by simp [getLast?_token]
  have hcount : n - c.bodyLine = lineFeeds front := by
    refine hfront.line (lineFeed_not_mem_token hname) (token_ne_nil _) hreturn hline htoken ?_
    intro m other hm hother hinfix
    have hnone := hbefore m other hm hother
    rw [contains_parameterReferences.mpr ⟨hname, hinfix⟩] at hnone
    contradiction
  exact ⟨front, hfront, by omega⟩

/-- The first reference to `name` in the body of a document stands on line `n` of the document. -/
def FirstReferenceOn (text name : String) (n : Nat) : Prop :=
  ∃ lead front, text.toList = lead ++ (split text).body.toList ∧
    FirstBehind (token name.toList) (split text).body.toList front ∧
    n = 1 + lineFeeds (lead ++ front)

/-- What is said about a parameter that is not declared. -/
def undeclaredIssue (name : String) (line : Nat) : Issue :=
  .atLine .undeclaredParameter (some line)
    ("Parameter '" ++ name ++ "' is not declared in input schema")

/-- What is said where so many parameters are referred to and no schema is there. -/
def missingSchemaIssue (count : Nat) : Issue :=
  .inField .inputSchemaMissing "input.schema"
    ("Body references " ++ toString count ++ " parameter(s) but no input schema is defined")

/-- A name that is no key of a schema, and the part of it before its first dot is none either
where that part would do. -/
def Undeclared (nested : Bool) (schema : Table ParameterSpec) (name : String) : Prop :=
  name ∉ schema.keys ∧ ¬ (nested = true ∧ rootOf name ∈ schema.keys)

/-- The warnings on the parameters of a workflow that was read from `text`. -/
structure ParameterWarnings (text : String) (w : Workflow) (nested : Bool) (issues : List Issue) :
    Prop where
  unreferenced : w.content.parameterReferences = [] → issues = []
  without_schema : w.content.parameterReferences ≠ [] → w.header.input.schema = none →
    issues = [missingSchemaIssue w.content.parameterReferences.length]
  with_schema : ∀ schema, w.header.input.schema = some schema →
    ∃ (names : Names) (line : String → Nat), names.Ascending ∧
      (∀ name, name ∈ names ↔
        name ∈ w.content.parameterReferences ∧ Undeclared nested schema name) ∧
      issues = names.map (fun name => undeclaredIssue name (line name)) ∧
      ∀ name ∈ names, FirstReferenceOn text name (line name)

/-- The warnings of a report that are about parameters. -/
def Report.parameterWarnings (r : Report) : List Issue :=
  r.warnings.filter fun i => i.code = .inputSchemaMissing ∨ i.code = .undeclaredParameter

theorem isDeclared_eq_false_iff {nested : Bool} {schema : Table ParameterSpec} {name : String} :
    isDeclared nested schema name = false ↔ Undeclared nested schema name := by
  rw [isDeclared, Undeclared, Bool.or_eq_false_iff, Bool.and_eq_false_iff, not_and_or,
    Bool.not_eq_true, ← Table.contains_iff, ← Table.contains_iff, Bool.not_eq_true,
    Bool.not_eq_true]

theorem parameterWarnings_validate (v : Validator) (w : Workflow) :
    (v.validate w).parameterWarnings = parameterIssues v.nestedParameters w := by
  have hfilter := filter_warnings v (w := w)
    (fun code => code = .inputSchemaMissing ∨ code = .undeclaredParameter) rfl
  simpa [Report.parameterWarnings] using hfilter

section Reading

variable {text : String} {path : Option String} {w : Workflow}

theorem firstReferenceOn_of_read (h : Workflow.read text path = .ok w) {name : String} {n : Nat}
    (hn : w.content.parameterLine? name = some n) : FirstReferenceOn text name n := by
  obtain ⟨-, header, -, rfl⟩ := Workflow.read_eq_ok_iff.mp h
  obtain ⟨front, hfront, hline⟩ := Content.firstBehind_of_parameterLine? hn
  obtain ⟨lead, htext, ⟨-, hfirst⟩ | ⟨-, -, hempty, -⟩⟩ := body_place text
  · refine ⟨lead, front, htext, hfront, ?_⟩
    simp only [Workflow.ofHeader, Content.ofBody, hfirst] at hline
    rw [lineFeeds_append]
    omega
  · have hnil : front ++ token name.toList <+: [] := by
      simpa [Workflow.ofHeader, Content.ofBody, hempty] using hfront.1
    exact absurd (List.append_eq_nil_iff.mp (List.prefix_nil.mp hnil)).2 (token_ne_nil _)

/-- A parameter that the body refers to has a line. -/
theorem exists_line_of_reference (h : Workflow.read text path = .ok w) {name : String}
    (hname : name ∈ w.content.parameterReferences) :
    ∃ n, w.content.parameterLine? name = some n := by
  obtain ⟨-, header, -, rfl⟩ := Workflow.read_eq_ok_iff.mp h
  rw [← Option.isSome_iff_exists]
  exact (Content.isSome_parameterLine? _ _ _).trans (List.contains_iff_mem.mpr hname)

theorem ascending_parameterReferences (h : Workflow.read text path = .ok w) :
    w.content.parameterReferences.Ascending := by
  obtain ⟨-, header, -, rfl⟩ := Workflow.read_eq_ok_iff.mp h
  exact Names.ascending_ofList _

/-- With a schema there is one issue for each reference that it does not declare. -/
theorem parameterIssues_of_schema (h : Workflow.read text path = .ok w) (nested : Bool)
    {schema : Table ParameterSpec} (hschema : w.header.input.schema = some schema) :
    parameterIssues nested w =
      (w.content.parameterReferences.filter fun name => !isDeclared nested schema name).map
        fun name => undeclaredIssue name ((w.content.parameterLine? name).getD 0) := by
  unfold parameterIssues
  dsimp only
  rw [hschema]
  refine List.map_congr_left fun name hname => ?_
  obtain ⟨n, hn⟩ := exists_line_of_reference h (List.mem_of_mem_filter hname)
  rw [undeclaredIssue, hn, Option.getD_some]

theorem parameterWarnings_of_schema (h : Workflow.read text path = .ok w) (nested : Bool)
    (schema : Table ParameterSpec) (hschema : w.header.input.schema = some schema) :
    ∃ (names : Names) (line : String → Nat), names.Ascending ∧
      (∀ name, name ∈ names ↔
        name ∈ w.content.parameterReferences ∧ Undeclared nested schema name) ∧
      parameterIssues nested w = names.map (fun name => undeclaredIssue name (line name)) ∧
      ∀ name ∈ names, FirstReferenceOn text name (line name) := by
  refine ⟨_, _, List.Pairwise.filter _ (ascending_parameterReferences h), fun name => ?_,
    parameterIssues_of_schema h nested hschema, fun name hname => ?_⟩
  · rw [List.mem_filter, Bool.not_eq_true', isDeclared_eq_false_iff]
  · obtain ⟨n, hn⟩ := exists_line_of_reference h (List.mem_of_mem_filter hname)
    rw [hn, Option.getD_some]
    exact firstReferenceOn_of_read h hn

end Reading

/-- A report has just the warnings on parameters that the references of the body and the schema
of the inputs ask for, each of them at the first place of its name. -/
theorem parameter_warnings_exact {text : String} {path : Option String} {w : Workflow}
    (h : Workflow.read text path = .ok w) (v : Validator) :
    (v.validate w).parameterWarnings = parameterIssues v.nestedParameters w ∧
      ParameterWarnings text w v.nestedParameters (v.validate w).parameterWarnings := by
  have hreport := parameterWarnings_validate v w
  refine ⟨hreport, ?_⟩
  rw [hreport]
  refine ⟨fun hnone => ?_, fun hsome hschema => ?_, parameterWarnings_of_schema h _⟩
  · unfold parameterIssues
    dsimp only
    rw [hnone]
    cases w.header.input.schema <;> rfl
  · have hreferences : w.content.parameterReferences.isEmpty = false := by simpa using hsome
    unfold parameterIssues
    dsimp only
    rw [hschema, hreferences]
    rfl

/-- The schema declares the root of one of three parameters, and the last name of the body comes
first in the order of names. -/
def dottedDocument : String :=
  "---\ninput:\n  schema:\n    config:\n---\n" ++
    "use \x7b\x7bx\x7d\x7d and \x7b\x7bconfig.env\x7d\x7d\n" ++
    "\x7b\x7bb\x7d\x7d \x7b\x7bx\x7d\x7d\n"

theorem parameter_warnings_of_dotted : ∃ w, Workflow.read dottedDocument none = .ok w ∧
    (Validator.standard.validate w).parameterWarnings =
      [undeclaredIssue "b" 7, undeclaredIssue "config.env" 6, undeclaredIssue "x" 6] ∧
    ((Validator.standard.withNestedParameters true).validate w).parameterWarnings =
      [undeclaredIssue "b" 7, undeclaredIssue "x" 6] ∧
    ParameterWarnings dottedDocument w false
      (Validator.standard.validate w).parameterWarnings := by
  have hfound : (Workflow.read dottedDocument none).toOption.map (fun w =>
      ((Validator.standard.validate w).parameterWarnings,
        ((Validator.standard.withNestedParameters true).validate w).parameterWarnings)) =
      some ([undeclaredIssue "b" 7, undeclaredIssue "config.env" 6, undeclaredIssue "x" 6],
        [undeclaredIssue "b" 7, undeclaredIssue "x" 6]) := by
    decide +kernel
  obtain ⟨w, hread, hfound⟩ := toOption_map_eq_some.mp hfound
  obtain ⟨hflat, hnested⟩ := Prod.mk.inj hfound
  exact ⟨w, hread, hflat, hnested, (parameter_warnings_exact hread .standard).2⟩

end Runbook
