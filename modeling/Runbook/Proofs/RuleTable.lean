import Mathlib.Data.List.Nodup
import Runbook.Proofs.HeaderValues
import Runbook.Proofs.NumberOrder
import Runbook.Validation.Validator

/-!
Validation as a table of conditions. Every condition on a workflow that is violated makes one
error, in the order of the conditions, and nothing else does; so a workflow is valid when it meets
them all. The warnings on extensions are one for every reserved key without a meaning, and one for
every dependency that is not declared.
-/

namespace Runbook

open Validation
open Registry (mcpKey subWorkflowsKey)

/-- What a workflow must meet to be valid. -/
structure Workflow.MeetsRules (w : Workflow) : Prop where
  named : w.hasHeader = true →
    ∃ name, w.header.name = some name ∧ Text.isBlankString name = false
  temperature : ∀ t, w.header.config.temperature = some t → t.Within 2
  outputTokens : ∀ n, w.header.config.maxOutputTokens = some n → 0 < n
  topP : ∀ p, w.header.config.topP = some p → p.Within 1
  body : Text.isBlankString w.content.body = false
  servers : ∀ s ∈ w.header.extensions.mcp, Text.isBlankString s.server = false
  paths : ∀ s ∈ w.header.extensions.subWorkflows, Text.isBlankString s.path = false

/-- The conditions that errors are about; those on the entries of a list have the index of the
entry. -/
inductive Condition
  | named
  | temperature
  | outputTokens
  | topP
  | body
  | server (index : Nat)
  | path (index : Nat)
deriving DecidableEq

namespace Condition

def code : Condition → IssueCode
  | named => .missingName
  | temperature => .temperatureOutOfRange
  | outputTokens => .maxOutputTokensInvalid
  | topP => .topPOutOfRange
  | body => .emptyBody
  | server _ => .mcpMissingServer
  | path _ => .subWorkflowMissingPath

def field : Condition → Option String
  | named => some "name"
  | temperature => some "config.temperature"
  | outputTokens => some "config.maxOutputTokens"
  | topP => some "config.topP"
  | body => none
  | server index => some (fieldOf mcpKey index "server")
  | path index => some (fieldOf subWorkflowsKey index "path")

def Violated (w : Workflow) : Condition → Prop
  | named => w.hasHeader = true ∧ ∀ name ∈ w.header.name, Text.isBlankString name = true
  | temperature => ∃ t ∈ w.header.config.temperature, ¬ t.Within 2
  | outputTokens => ∃ n ∈ w.header.config.maxOutputTokens, n ≤ 0
  | topP => ∃ p ∈ w.header.config.topP, ¬ p.Within 1
  | body => Text.isBlankString w.content.body = true
  | server index => ∃ s ∈ w.header.extensions.mcp[index]?, Text.isBlankString s.server = true
  | path index => ∃ s ∈ w.header.extensions.subWorkflows[index]?, Text.isBlankString s.path = true

instance (w : Workflow) : (c : Condition) → Decidable (c.Violated w)
  | named => inferInstanceAs (Decidable (_ ∧ _))
  | temperature => inferInstanceAs (Decidable (∃ t ∈ w.header.config.temperature, _))
  | outputTokens => inferInstanceAs (Decidable (∃ n ∈ w.header.config.maxOutputTokens, _))
  | topP => inferInstanceAs (Decidable (∃ p ∈ w.header.config.topP, _))
  | body => inferInstanceAs (Decidable (_ = true))
  | server index => inferInstanceAs (Decidable (∃ s ∈ w.header.extensions.mcp[index]?, _))
  | path index => inferInstanceAs (Decidable (∃ s ∈ w.header.extensions.subWorkflows[index]?, _))

/-- The conditions on a workflow, in the order in which they are checked. -/
def all (w : Workflow) : List Condition :=
  [named, temperature, outputTokens, topP, body] ++
    (List.range w.header.extensions.mcp.length).map server ++
    (List.range w.header.extensions.subWorkflows.length).map path

variable {w : Workflow}

theorem nodup_all (w : Workflow) : (all w).Nodup := by
  have hserver : Function.Injective server := fun i j h => Condition.server.inj h
  have hpath : Function.Injective path := fun i j h => Condition.path.inj h
  refine List.Nodup.append (List.Nodup.append (by decide) ?_ ?_) ?_ ?_
  · exact List.nodup_range.map hserver
  · intro c hfirst hmem
    obtain ⟨i, -, rfl⟩ := List.mem_map.mp hmem
    simp at hfirst
  · exact List.nodup_range.map hpath
  · intro c hfirst hmem
    obtain ⟨i, -, rfl⟩ := List.mem_map.mp hmem
    simp at hfirst

theorem mem_all_of_violated {c : Condition} (h : c.Violated w) : c ∈ all w := by
  cases c with
  | server i =>
    obtain ⟨s, hs, -⟩ := h
    have hi := (List.getElem?_eq_some_iff.mp hs).1
    simp [all, hi]
  | path i =>
    obtain ⟨s, hs, -⟩ := h
    have hi := (List.getElem?_eq_some_iff.mp hs).1
    simp [all, hi]
  | named => simp [all]
  | temperature => simp [all]
  | outputTokens => simp [all]
  | topP => simp [all]
  | body => simp [all]

/-- The violated ones of some conditions. -/
def violated (w : Workflow) (conditions : List Condition) : List Condition :=
  conditions.filter fun c => decide (c.Violated w)

theorem mem_violated_all {c : Condition} : c ∈ violated w (all w) ↔ c.Violated w := by
  rw [violated, List.mem_filter, decide_eq_true_eq]
  exact ⟨fun h => h.2, fun h => ⟨mem_all_of_violated h, h⟩⟩

/-- What an error says about its condition. -/
def label (c : Condition) : IssueCode × Option String := (c.code, c.field)

end Condition

def Issue.label (i : Issue) : IssueCode × Option String := (i.code, i.field)

/-! The errors of each rule are those of its conditions. -/

section Errors

open Condition

variable {w : Workflow} {α : Type}

theorem labels_issueIf {c : Condition} {b : Bool} {issue : Issue} (hb : b = true ↔ c.Violated w)
    (hissue : issue.label = c.label) :
    (issueIf b issue).map Issue.label = (violated w [c]).map Condition.label := by
  by_cases hviolated : c.Violated w
  · simp [issueIf, violated, hb.mpr hviolated, hviolated, hissue]
  · have hb' : b = false := Bool.eq_false_iff.mpr fun h => hviolated (hb.mp h)
    simp [issueIf, violated, hb', hviolated]

theorem labels_nil {c : Condition} (h : ¬ c.Violated w) :
    ([] : List Issue).map Issue.label = (violated w [c]).map Condition.label := by
  simp [violated, h]

theorem violated_append (first second : List Condition) :
    violated w (first ++ second) = violated w first ++ violated w second := by
  simp [violated]

theorem labels_zipIdx {items : List α} {issues : Nat → α → List Issue} {c : Nat → Condition}
    {first : Nat} (h : ∀ i a, items[i]? = some a → (issues (first + i) a).map Issue.label =
      (violated w [c (first + i)]).map Condition.label) :
    ((items.zipIdx first).flatMap fun (a, i) => issues i a).map Issue.label =
      (violated w ((List.range' first items.length).map c)).map Condition.label := by
  induction items generalizing first with
  | nil => rfl
  | cons a items ih =>
    have hfirst := h 0 a rfl
    have htail : ∀ i b, items[i]? = some b → (issues (first + 1 + i) b).map Issue.label =
        (violated w [c (first + 1 + i)]).map Condition.label := by
      intro i b hi
      rw [Nat.add_assoc, Nat.add_comm 1 i]
      exact h (i + 1) b hi
    have hrest := ih htail
    have hcons : (List.range' first (items.length + 1)).map c =
        [c first] ++ (List.range' (first + 1) items.length).map c := rfl
    rw [List.zipIdx_cons, List.flatMap_cons, List.map_append, hrest, List.length_cons, hcons,
      violated_append, List.map_append]
    exact congrArg (· ++ _) hfirst

theorem labels_indexed {items : List α} {issues : Nat → α → List Issue} {c : Nat → Condition}
    (h : ∀ i a, items[i]? = some a →
      (issues i a).map Issue.label = (violated w [c i]).map Condition.label) :
    ((indexed items).flatMap fun (i, a) => issues i a).map Issue.label =
      (violated w ((List.range items.length).map c)).map Condition.label := by
  have hzero : ∀ i a, items[i]? = some a → (issues (0 + i) a).map Issue.label =
      (violated w [c (0 + i)]).map Condition.label := by
    simpa only [Nat.zero_add] using h
  rw [List.range_eq_range', ← labels_zipIdx hzero, indexed, List.flatMap_map]

/-- What is wrong with a setting, where it is set. -/
def settingIssues (o : Option α) (wrong : α → Bool) (issue : α → Issue) : List Issue :=
  o.elim [] fun a => issueIf (wrong a) (issue a)

theorem labels_settingIssues {c : Condition} {o : Option α} {wrong : α → Bool} {issue : α → Issue}
    (hc : (∃ a ∈ o, wrong a = true) ↔ c.Violated w) (hissue : ∀ a, (issue a).label = c.label) :
    (settingIssues o wrong issue).map Issue.label = (violated w [c]).map Condition.label := by
  cases o with
  | none => exact labels_nil fun h => by simpa using hc.mpr h
  | some a => exact labels_issueIf (by simpa using hc) (hissue a)

theorem headerIssues_eq (w : Workflow) : headerIssues w =
    issueIf (w.hasHeader && !hasName w)
        (.inField .missingName "name" "Workflow header must declare a name") ++
      settingIssues w.header.config.temperature (fun t => !isInRange t 2) (fun t =>
        .inField .temperatureOutOfRange "config.temperature"
          ("Temperature " ++ t.render .message ++ " is outside [0.0, 2.0]")) ++
      settingIssues w.header.config.maxOutputTokens (fun n => n ≤ 0) (fun n =>
        .inField .maxOutputTokensInvalid "config.maxOutputTokens"
          ("MaxOutputTokens must be greater than 0, got " ++ toString n)) ++
      settingIssues w.header.config.topP (fun p => !isInRange p 1) (fun p =>
        .inField .topPOutOfRange "config.topP"
          ("TopP " ++ p.render .message ++ " is outside [0.0, 1.0]")) := by
  unfold headerIssues settingIssues
  dsimp only
  cases w.header.config.temperature <;> cases w.header.config.maxOutputTokens <;>
    cases w.header.config.topP <;> rfl

theorem not_hasName_iff :
    (w.hasHeader && !hasName w) = true ↔ Condition.named.Violated w := by
  unfold hasName
  cases hname : w.header.name with
  | none => simp [Violated, hname]
  | some name => simp [Violated, hname]

theorem labels_headerIssues : (headerIssues w).map Issue.label =
    (violated w [named, temperature, outputTokens, topP]).map Condition.label := by
  have hsplit : [named, temperature, outputTokens, topP] =
      (([named] ++ [temperature]) ++ [outputTokens]) ++ [topP] := rfl
  have htemperature : (∃ t ∈ w.header.config.temperature, (!isInRange t 2) = true) ↔
      temperature.Violated w := by simp [Violated, ← Binary64.isInRange_two]
  have houtputTokens : (∃ n ∈ w.header.config.maxOutputTokens, decide (n ≤ 0) = true) ↔
      outputTokens.Violated w := by simp [Violated]
  have htopP : (∃ p ∈ w.header.config.topP, (!isInRange p 1) = true) ↔
      topP.Violated w := by simp [Violated, ← Binary64.isInRange_one]
  rw [hsplit, violated_append, violated_append, violated_append, headerIssues_eq]
  simp only [List.map_append]
  rw [labels_issueIf not_hasName_iff rfl, labels_settingIssues htemperature fun _ => rfl,
    labels_settingIssues houtputTokens fun _ => rfl, labels_settingIssues htopP fun _ => rfl]

theorem labels_bodyIssues :
    (bodyIssues w).map Issue.label = (violated w [body]).map Condition.label := by
  refine labels_issueIf ?_ rfl
  simp [Violated, Content.hasText]

theorem labels_mcpIssues :
    ((indexed w.header.extensions.mcp).flatMap fun (i, s) => mcpIssues i s).map Issue.label =
      (violated w ((List.range w.header.extensions.mcp.length).map server)).map
        Condition.label := by
  refine labels_indexed fun i s hs => labels_issueIf ?_ rfl
  simp [Violated, hs]

/-- What is said about the path of a declaration. -/
def pathIssues (index : Nat) (sub : SubWorkflow) : List Issue :=
  issueIf (Text.isBlankString sub.path)
    (.inField .subWorkflowMissingPath (fieldOf subWorkflowsKey index "path")
      ("Sub-workflow " ++ sub.name.getD ("#" ++ toString (index + 1)) ++ " has no path"))

theorem labels_pathIssues :
    ((indexed w.header.extensions.subWorkflows).flatMap fun (i, s) => pathIssues i s).map
        Issue.label =
      (violated w ((List.range w.header.extensions.subWorkflows.length).map path)).map
        Condition.label := by
  refine labels_indexed fun i s hs => labels_issueIf ?_ rfl
  simp [Violated, hs]

end Errors

/-! Errors and warnings told apart. -/

section Severities

variable {w : Workflow}

/-- What is said about one dependency that is not declared. -/
def dependencyIssue (index : Nat) (sub : SubWorkflow) (name : String) : Issue :=
  .inField .unknownDependency (fieldOf subWorkflowsKey index "depends-on")
    ("Sub-workflow " ++ sub.name.getD ("#" ++ toString (index + 1)) ++
      " depends on undeclared '" ++ name ++ "'")

/-- What is said about a reserved key without a meaning. -/
def extensionIssue (key : String) : Issue :=
  .inField .unknownExtension key
    ("Unrecognized extension key '" ++ key ++ "' is kept but not interpreted")

/-- The dependencies of a declaration that no declaration has the name of. -/
def dependencyIssues (e : Extensions) (index : Nat) (sub : SubWorkflow) : List Issue :=
  (sub.dependsOn.filter fun name => (e.subWorkflow? name).isNone).map (dependencyIssue index sub)

theorem contains_declared (e : Extensions) (name : String) :
    (e.subWorkflows.filterMap (·.name)).contains name = (e.subWorkflow? name).isSome := by
  rw [Bool.eq_iff_iff, List.contains_iff_mem, Extensions.subWorkflow?, List.find?_isSome,
    List.mem_filterMap]
  simp only [decide_eq_true_eq]

theorem subWorkflowIssues_eq (e : Extensions) (index : Nat) (sub : SubWorkflow) :
    subWorkflowIssues (e.subWorkflows.filterMap (·.name)) index sub =
      pathIssues index sub ++ dependencyIssues e index sub := by
  have hdeclared : ∀ name, (!(e.subWorkflows.filterMap (·.name)).contains name) =
      (e.subWorkflow? name).isNone := by
    intro name
    rw [contains_declared, Option.not_isSome]
  unfold subWorkflowIssues dependencyIssues
  simp only [hdeclared]
  rfl

theorem extensionIssues_eq (w : Workflow) : extensionIssues w =
    (indexed w.header.extensions.mcp).flatMap (fun (i, s) => mcpIssues i s) ++
      (indexed w.header.extensions.subWorkflows).flatMap (fun (i, s) =>
        pathIssues i s ++ dependencyIssues w.header.extensions i s) ++
      w.header.unknownExtensions.map extensionIssue := by
  unfold extensionIssues
  simp only [subWorkflowIssues_eq]
  rfl

theorem code_of_mem_issueIf {b : Bool} {issue i : Issue} (h : i ∈ issueIf b issue) :
    i.code = issue.code := by
  unfold issueIf at h
  split at h
  · rw [List.mem_singleton.mp h]
  · simp at h

theorem code_of_mem_parameterIssues {nested : Bool} {i : Issue}
    (h : i ∈ parameterIssues nested w) :
    i.code = .inputSchemaMissing ∨ i.code = .undeclaredParameter := by
  unfold parameterIssues at h
  dsimp only at h
  split at h
  · exact .inl (code_of_mem_issueIf h)
  · obtain ⟨name, -, rfl⟩ := List.mem_map.mp h
    exact .inr rfl

theorem code_of_mem_toolIssuesFrom {extra : Names} {seen : List String}
    {tools : List (String × Option String)} {i : Issue}
    (h : i ∈ toolIssuesFrom extra seen tools) : i.code = .unknownTool := by
  induction tools generalizing seen with
  | nil => simp [toolIssuesFrom] at h
  | cons tool rest ih =>
    obtain ⟨name, field⟩ := tool
    rw [toolIssuesFrom] at h
    split at h
    · exact ih h
    · rcases List.mem_append.mp h with hfirst | hrest
      · exact code_of_mem_issueIf hfirst
      · exact ih hrest

/-- What conditions are about is an error. -/
theorem severity_of_labels {issues : List Issue} {conditions : List Condition}
    (h : issues.map Issue.label = conditions.map Condition.label) :
    ∀ i ∈ issues, i.severity = .error := by
  intro i hi
  have hmem : i.label ∈ conditions.map Condition.label := h ▸ List.mem_map_of_mem hi
  obtain ⟨c, -, hc⟩ := List.mem_map.mp hmem
  have hcode : c.code = i.code := congrArg Prod.fst hc
  rw [Issue.severity, ← hcode]
  cases c <;> rfl

theorem severity_issueIf {b : Bool} {issue : Issue} :
    ∀ i ∈ issueIf b issue, i.severity = issue.severity := by
  intro i hi
  rw [Issue.severity, code_of_mem_issueIf hi, Issue.severity]

theorem severity_mcpIssues {index : Nat} {server : McpServer} :
    ∀ i ∈ mcpIssues index server, i.severity = .error := severity_issueIf

theorem severity_pathIssues {index : Nat} {sub : SubWorkflow} :
    ∀ i ∈ pathIssues index sub, i.severity = .error := severity_issueIf

theorem severity_map {names : List String} {issue : String → Issue} {severity : Severity}
    (h : ∀ name, (issue name).severity = severity) :
    ∀ i ∈ names.map issue, i.severity = severity := by
  intro i hi
  obtain ⟨name, -, rfl⟩ := List.mem_map.mp hi
  exact h name

theorem severity_dependencyIssues {e : Extensions} {index : Nat} {sub : SubWorkflow} :
    ∀ i ∈ dependencyIssues e index sub, i.severity = .warning := severity_map fun _ => rfl

theorem severity_extensionIssues {keys : List String} :
    ∀ i ∈ keys.map extensionIssue, i.severity = .warning := severity_map fun _ => rfl

theorem severity_parameterIssues {nested : Bool} :
    ∀ i ∈ parameterIssues nested w, i.severity = .warning := by
  intro i hi
  rcases code_of_mem_parameterIssues hi with hcode | hcode
  · rw [Issue.severity, hcode]
    rfl
  · rw [Issue.severity, hcode]
    rfl

theorem severity_toolIssues {extra : Names} : ∀ i ∈ toolIssues extra w, i.severity = .warning := by
  intro i hi
  rw [Issue.severity, code_of_mem_toolIssuesFrom hi]
  rfl

/-- Of findings that are alike in some way, all are kept for it or none. -/
theorem filter_alike {β : Type} [DecidableEq β] {f : Issue → β} {issues : List Issue} {b : β}
    (h : ∀ i ∈ issues, f i = b) (kept : β) :
    issues.filter (fun i => f i = kept) = if b = kept then issues else [] := by
  by_cases hkept : b = kept
  · rw [if_pos hkept, List.filter_eq_self]
    intro i hi
    exact decide_eq_true ((h i hi).trans hkept)
  · rw [if_neg hkept, List.filter_eq_nil_iff]
    intro i hi hsame
    exact hkept ((h i hi).symm.trans (of_decide_eq_true hsame))

variable (v : Validator) (w)

/-- The findings of one severity, those of each rule in the place of the rule. -/
theorem filter_issues (kept : Severity) : (v.issues w).filter (·.severity = kept) =
    (if Severity.error = kept then headerIssues w else []) ++
      (if Severity.error = kept then bodyIssues w else []) ++
      (((indexed w.header.extensions.mcp).flatMap fun (i, s) =>
          if Severity.error = kept then mcpIssues i s else []) ++
        ((indexed w.header.extensions.subWorkflows).flatMap fun (i, s) =>
          (if Severity.error = kept then pathIssues i s else []) ++
            if Severity.warning = kept then dependencyIssues w.header.extensions i s else []) ++
        if Severity.warning = kept then w.header.unknownExtensions.map extensionIssue else []) ++
      (if Severity.warning = kept then parameterIssues v.nestedParameters w else []) ++
      (if Severity.warning = kept then toolIssues v.extraTools w else []) := by
  rw [Validator.issues, extensionIssues_eq]
  simp only [List.filter_append, List.filter_flatMap,
    filter_alike (severity_of_labels labels_headerIssues),
    filter_alike (severity_of_labels labels_bodyIssues), filter_alike severity_mcpIssues,
    filter_alike severity_pathIssues, filter_alike severity_dependencyIssues,
    filter_alike severity_extensionIssues, filter_alike severity_parameterIssues,
    filter_alike severity_toolIssues]

/-- The errors, in the order of the rules that make them. -/
theorem errors_eq : (v.validate w).errors =
    headerIssues w ++ bodyIssues w ++
      (indexed w.header.extensions.mcp).flatMap (fun (i, s) => mcpIssues i s) ++
      (indexed w.header.extensions.subWorkflows).flatMap (fun (i, s) => pathIssues i s) := by
  change (v.issues w).filter (·.severity = .error) = _
  simp [filter_issues]

/-- The warnings, in the order of the rules that make them. -/
theorem warnings_eq : (v.validate w).warnings =
    (indexed w.header.extensions.subWorkflows).flatMap (fun (i, s) =>
        dependencyIssues w.header.extensions i s) ++
      w.header.unknownExtensions.map extensionIssue ++
      parameterIssues v.nestedParameters w ++ toolIssues v.extraTools w := by
  change (v.issues w).filter (·.severity = .warning) = _
  simp [filter_issues]

/-- One error for every violated condition. -/
theorem labels_errors : (v.validate w).errors.map Issue.label =
    (Condition.violated w (Condition.all w)).map Condition.label := by
  have hall : Condition.all w =
      (([.named, .temperature, .outputTokens, .topP] ++ [.body]) ++
        (List.range w.header.extensions.mcp.length).map .server) ++
      (List.range w.header.extensions.subWorkflows.length).map .path := rfl
  rw [hall, violated_append, violated_append, violated_append, errors_eq]
  simp only [List.map_append, labels_headerIssues, labels_bodyIssues, labels_mcpIssues,
    labels_pathIssues]

theorem isValid_iff : (v.validate w).isValid = true ↔ ∀ c, ¬ Condition.Violated w c := by
  have hlength := congrArg List.length (labels_errors w v)
  rw [List.length_map, List.length_map] at hlength
  have hempty : (v.validate w).errors = [] ↔ Condition.violated w (Condition.all w) = [] := by
    rw [← List.length_eq_zero_iff, ← List.length_eq_zero_iff, hlength]
  rw [Report.isValid, List.isEmpty_iff, hempty, List.eq_nil_iff_forall_not_mem]
  simp only [Condition.mem_violated_all]

end Severities

/-- A workflow meets the rules when it violates no condition. -/
theorem Workflow.meetsRules_iff (w : Workflow) : w.MeetsRules ↔ ∀ c, ¬ Condition.Violated w c := by
  constructor
  · intro h c
    cases c with
    | named =>
      rintro ⟨hheader, hblank⟩
      obtain ⟨name, hname, htext⟩ := h.named hheader
      rw [hblank name hname] at htext
      cases htext
    | temperature =>
      rintro ⟨t, ht, hout⟩
      exact hout (h.temperature t ht)
    | outputTokens =>
      rintro ⟨n, hn, hout⟩
      exact absurd (h.outputTokens n hn) (Int.not_lt.mpr hout)
    | topP =>
      rintro ⟨p, hp, hout⟩
      exact hout (h.topP p hp)
    | body =>
      intro hblank
      rw [Condition.Violated, h.body] at hblank
      cases hblank
    | server i =>
      rintro ⟨s, hs, hblank⟩
      rw [h.servers s (List.mem_of_getElem? hs)] at hblank
      cases hblank
    | path i =>
      rintro ⟨s, hs, hblank⟩
      rw [h.paths s (List.mem_of_getElem? hs)] at hblank
      cases hblank
  · intro h
    refine ⟨fun hheader => ?_, fun t ht => ?_, fun n hn => ?_, fun p hp => ?_, ?_, fun s hs => ?_,
      fun s hs => ?_⟩
    · by_contra hnone
      refine h .named ⟨hheader, fun name hname => ?_⟩
      by_contra htext
      exact hnone ⟨name, hname, Bool.not_eq_true _ ▸ htext⟩
    · by_contra hout
      exact h .temperature ⟨t, ht, hout⟩
    · by_contra hout
      exact h .outputTokens ⟨n, hn, Int.not_lt.mp hout⟩
    · by_contra hout
      exact h .topP ⟨p, hp, hout⟩
    · exact Bool.not_eq_true _ ▸ h .body
    · obtain ⟨i, hi⟩ := List.mem_iff_getElem?.mp hs
      exact Bool.not_eq_true _ ▸ fun hblank => h (.server i) ⟨s, hi, hblank⟩
    · obtain ⟨i, hi⟩ := List.mem_iff_getElem?.mp hs
      exact Bool.not_eq_true _ ▸ fun hblank => h (.path i) ⟨s, hi, hblank⟩

/-! The keys of a header that was read. -/

namespace Header

theorem sorted_collect {line : Nat} {entries : List (Yaml × Yaml)} {t t' : Table Yaml}
    (ht : t.Sorted) (h : collect line t entries = .ok t') : t'.Sorted := by
  induction entries generalizing t with
  | nil => exact Except.ok.inj h ▸ ht
  | cons entry rest ih =>
    obtain ⟨k, v⟩ := entry
    rw [collect] at h
    split at h
    · next key _ => exact ih (ht.insert key v) h
    · cases h

theorem sorted_readFields {text : String} {line : Nat} {t : Table Yaml}
    (h : readFields text line = .ok t) : t.Sorted := by
  have hempty : Table.Sorted ([] : Table Yaml) := List.Pairwise.nil
  unfold readFields at h
  split at h
  · exact Except.ok.inj h ▸ hempty
  split at h
  · cases h
  · exact Except.ok.inj h ▸ hempty
  · exact sorted_collect hempty h
  · cases h

/-- The keys stand in ascending order, and the reserved ones are those with the prefix. -/
structure Keyed (h : Header) : Prop where
  sorted : h.fields.Sorted
  reserved : h.extensionFields = h.fields.filter fun entry => Registry.isExtensionKey entry.1

theorem keyed_ofFields {fields : Table Yaml} (hfields : fields.Sorted) {header : Header}
    (h : ofFields fields = .ok header) : header.Keyed := by
  obtain ⟨name, -, h⟩ := bind_eq_ok.mp h
  obtain ⟨model, -, h⟩ := bind_eq_ok.mp h
  obtain ⟨tools, -, h⟩ := bind_eq_ok.mp h
  obtain ⟨config, -, h⟩ := bind_eq_ok.mp h
  obtain ⟨input, -, h⟩ := bind_eq_ok.mp h
  obtain ⟨output, -, h⟩ := bind_eq_ok.mp h
  obtain ⟨metadata, -, h⟩ := bind_eq_ok.mp h
  obtain ⟨mcp, -, h⟩ := bind_eq_ok.mp h
  obtain ⟨subWorkflows, -, h⟩ := bind_eq_ok.mp h
  obtain ⟨resume, -, h⟩ := bind_eq_ok.mp h
  obtain ⟨errorHandling, -, h⟩ := bind_eq_ok.mp h
  obtain rfl := Except.ok.inj h
  exact ⟨hfields, rfl⟩

end Header

theorem Workflow.keyed_of_read {text : String} {path : Option String} {w : Workflow}
    (h : Workflow.read text path = .ok w) : w.header.Keyed := by
  obtain ⟨-, header, hheader, rfl⟩ := Workflow.read_eq_ok_iff.mp h
  unfold readHeader at hheader
  split at hheader
  · obtain ⟨fields, hfields, hheader⟩ := bind_eq_ok.mp hheader
    exact Header.keyed_ofFields (Header.sorted_readFields hfields) hheader
  · exact Except.ok.inj hheader ▸ ⟨List.Pairwise.nil, rfl⟩

theorem Header.Keyed.unknownExtensions_eq {h : Header} (hkeyed : h.Keyed) :
    h.unknownExtensions = h.fields.keys.filter fun key =>
      Registry.isExtensionKey key && !Registry.isKnownExtension key := by
  rw [Header.unknownExtensions, hkeyed.reserved, Table.keys, Table.keys, List.filter_map,
    List.filter_filter, List.filter_map]
  refine congrArg _ (List.filter_congr fun entry _ => ?_)
  exact Bool.and_comm _ _

/-! The warnings on extensions among all. -/

section Warnings

variable (v : Validator) {w : Workflow}

theorem code_of_mem_dependencies {i : Issue}
    (h : i ∈ (indexed w.header.extensions.subWorkflows).flatMap fun (i, s) =>
      dependencyIssues w.header.extensions i s) : i.code = .unknownDependency := by
  obtain ⟨⟨index, sub⟩, -, hmem⟩ := List.mem_flatMap.mp h
  obtain ⟨name, -, rfl⟩ := List.mem_map.mp hmem
  rfl

theorem code_of_mem_extensions {keys : List String} {i : Issue} (h : i ∈ keys.map extensionIssue) :
    i.code = .unknownExtension := by
  obtain ⟨key, -, rfl⟩ := List.mem_map.mp h
  rfl

/-- The warnings of some codes, those of each rule in the place of the rule; the two codes that are
about parameters go together. -/
theorem filter_warnings (kept : IssueCode → Bool)
    (hparameters : kept .inputSchemaMissing = kept .undeclaredParameter) :
    (v.validate w).warnings.filter (fun i => kept i.code) =
      (if kept .unknownDependency then
        (indexed w.header.extensions.subWorkflows).flatMap fun (i, s) =>
          dependencyIssues w.header.extensions i s
      else []) ++
      (if kept .unknownExtension then w.header.unknownExtensions.map extensionIssue else []) ++
      (if kept .undeclaredParameter then parameterIssues v.nestedParameters w else []) ++
      (if kept .unknownTool then toolIssues v.extraTools w else []) := by
  have hfilter : ∀ {issues : List Issue} {b : Bool}, (∀ i ∈ issues, kept i.code = b) →
      issues.filter (fun i => kept i.code) = if b then issues else [] := by
    intro issues b h
    simpa using filter_alike h true
  have hparameter : ∀ i ∈ parameterIssues v.nestedParameters w,
      kept i.code = kept .undeclaredParameter := by
    intro i hi
    rcases code_of_mem_parameterIssues hi with hcode | hcode
    · rw [hcode, hparameters]
    · rw [hcode]
  have htool : ∀ i ∈ toolIssues v.extraTools w, kept i.code = kept .unknownTool :=
    fun i hi => congrArg kept (code_of_mem_toolIssuesFrom hi)
  rw [warnings_eq, List.filter_append, List.filter_append, List.filter_append,
    hfilter fun i hi => congrArg kept (code_of_mem_dependencies hi),
    hfilter fun i hi => congrArg kept (code_of_mem_extensions hi), hfilter hparameter,
    hfilter htool]

theorem extension_warnings : (v.validate w).warnings.filter (·.code = .unknownExtension) =
    w.header.unknownExtensions.map extensionIssue := by
  have hfilter := filter_warnings v (w := w) (fun code => code = .unknownExtension) rfl
  simpa using hfilter

theorem dependency_warnings : (v.validate w).warnings.filter (·.code = .unknownDependency) =
    (indexed w.header.extensions.subWorkflows).flatMap fun (i, s) =>
      dependencyIssues w.header.extensions i s := by
  have hfilter := filter_warnings v (w := w) (fun code => code = .unknownDependency) rfl
  simpa using hfilter

end Warnings

/-- What each group of rules finds, in the order of the groups. -/
def Validator.groups (v : Validator) (w : Workflow) : List (List Issue) :=
  [headerIssues w, bodyIssues w, extensionIssues w, parameterIssues v.nestedParameters w,
    toolIssues v.extraTools w]

theorem Validator.filter_groups (v : Validator) (w : Workflow) (kept : Severity) :
    (v.issues w).filter (·.severity = kept) =
      (v.groups w).flatMap fun issues => issues.filter (·.severity = kept) := by
  simp [Validator.issues, Validator.groups]

/-- The report on a workflow that was read is just what the table of rules says. -/
theorem Validator.validate_of_read {text : String} {path : Option String} {w : Workflow}
    (h : Workflow.read text path = .ok w) (v : Validator) :
    ((v.validate w).isValid = true ↔ w.MeetsRules) ∧
      ((Condition.all w).Nodup ∧ (∀ c : Condition, c.Violated w → c ∈ Condition.all w) ∧
        (v.validate w).errors.map Issue.label =
          ((Condition.all w).filter fun c => c.Violated w).map Condition.label) ∧
      (w.header.fields.keys.Nodup ∧
        (v.validate w).warnings.filter (·.code = .unknownExtension) =
          (w.header.fields.keys.filter fun key =>
            Registry.isExtensionKey key && !Registry.isKnownExtension key).map extensionIssue) ∧
      (v.validate w).warnings.filter (·.code = .unknownDependency) =
        (indexed w.header.extensions.subWorkflows).flatMap (fun (i, s) =>
          (s.dependsOn.filter fun name => (w.header.extensions.subWorkflow? name).isNone).map
            (dependencyIssue i s)) ∧
      (v.validate w).errors =
        (v.groups w).flatMap (fun issues => issues.filter (·.severity = .error)) ∧
      (v.validate w).warnings =
        (v.groups w).flatMap (fun issues => issues.filter (·.severity = .warning)) := by
  have hkeyed := Workflow.keyed_of_read h
  refine ⟨?_, ⟨Condition.nodup_all w, fun c => Condition.mem_all_of_violated, labels_errors w v⟩,
    ⟨hkeyed.sorted.keys_nodup, ?_⟩, dependency_warnings v, v.filter_groups w .error,
    v.filter_groups w .warning⟩
  · rw [isValid_iff, Workflow.meetsRules_iff]
  · rw [extension_warnings, hkeyed.unknownExtensions_eq]

/-- A document without a name and without instructions, the second declaration of which has no
path and waits for a workflow that is not declared. -/
def faultyDocument : String :=
  "---\nmarkflow.sub-workflows:\n- path: p\n- depends-on:\n  - b\n---\n"

theorem report_of_faultyDocument : ∃ w, Workflow.read faultyDocument none = .ok w ∧
    ¬ w.MeetsRules ∧
    (Validator.standard.validate w).errors.map Issue.label = [
      (.missingName, some "name"), (.emptyBody, none),
      (.subWorkflowMissingPath, some "markflow.sub-workflows[1].path")] ∧
    (Validator.standard.validate w).warnings.map Issue.label = [
      (.unknownDependency, some "markflow.sub-workflows[1].depends-on")] := by
  have hfound : (Workflow.read faultyDocument none).toOption.map (fun w =>
      ((Validator.standard.validate w).isValid,
        (Validator.standard.validate w).errors.map Issue.label,
        (Validator.standard.validate w).warnings.map Issue.label)) =
      some (false, [
        (.missingName, some "name"), (.emptyBody, none),
        (.subWorkflowMissingPath, some "markflow.sub-workflows[1].path")],
        [(.unknownDependency, some "markflow.sub-workflows[1].depends-on")]) := by
    decide +kernel
  cases hread : Workflow.read faultyDocument none with
  | error e => simp [hread, Except.toOption] at hfound
  | ok w =>
    simp only [hread, Except.toOption, Option.map_some, Option.some.injEq, Prod.mk.injEq] at hfound
    obtain ⟨hvalid, herrors, hwarnings⟩ := hfound
    have hrules := (Validator.validate_of_read hread .standard).1
    refine ⟨w, rfl, fun hmeets => ?_, herrors, hwarnings⟩
    rw [hrules.mpr hmeets] at hvalid
    cases hvalid

end Runbook
