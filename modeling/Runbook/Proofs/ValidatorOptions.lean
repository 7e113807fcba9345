import Runbook.Proofs.ParameterWarnings
import Runbook.Proofs.ToolWarnings

/-!
The options of a validator only silence warnings. A validator that knows more tools, or accepts
dotted parameters through their roots, finds the same errors in a workflow; its warnings are those
of the other validator without some, which are about tools that it knows and about parameters with
a dot in their names. All other warnings stay, in their order.
-/

namespace Runbook

open Validation Registry

/-- A validator that was told of more tools and takes dotted parameters as it is set. -/
def Validator.withOptions (calls : List (List String)) (nested : Bool) : Validator :=
  (Validator.knowing calls).withNestedParameters nested

/-- The warnings that a validator does not give which has been told of `tools` and which, with
`nested`, accepts a dotted parameter through its root. -/
inductive Silenced (w : Workflow) (tools : List String) (nested : Bool) : Issue → Prop
  | tool {i : Nat} {tool other : String} (hplace : w.header.tools[i]? = some tool)
      (hother : other ∈ tools) (hsame : SameTool tool other) :
      Silenced w tools nested (toolIssueAt (i, tool))
  | parameter {name : String} {line : Nat} (hnested : nested = true) (hdotted : '.' ∈ name.toList)
      (hroot : ∃ schema ∈ w.header.input.schema, rootOf name ∈ schema.keys) :
      Silenced w tools nested (undeclaredIssue name line)

section Messages

variable {w : Workflow} {tools : List String} {nested : Bool}

theorem undeclaredIssue_inj {name other : String} {line next : Nat}
    (h : undeclaredIssue name line = undeclaredIssue other next) : name = other := by
  have hmessage := congrArg Issue.message h
  simp only [undeclaredIssue, Issue.atLine] at hmessage
  simpa using hmessage

theorem toolIssueAt_inj {i j : Nat} {tool other : String}
    (h : toolIssueAt (i, tool) = toolIssueAt (j, other)) : tool = other := by
  have hmessage := congrArg Issue.message h
  simp only [toolIssueAt, unknownToolIssue] at hmessage
  simpa using hmessage

theorem silenced_undeclaredIssue {name : String} {line : Nat} :
    Silenced w tools nested (undeclaredIssue name line) ↔ nested = true ∧ '.' ∈ name.toList ∧
      ∃ schema ∈ w.header.input.schema, rootOf name ∈ schema.keys := by
  constructor
  · intro h
    generalize hissue : undeclaredIssue name line = issue at h
    cases h with
    | tool hplace hother hsame => cases congrArg Issue.code hissue
    | parameter hnested hdotted hroot =>
      obtain rfl := undeclaredIssue_inj hissue
      exact ⟨hnested, hdotted, hroot⟩
  · rintro ⟨hnested, hdotted, hroot⟩
    exact .parameter hnested hdotted hroot

theorem silenced_toolIssueAt {i : Nat} {tool : String} (hplace : w.header.tools[i]? = some tool) :
    Silenced w tools nested (toolIssueAt (i, tool)) ↔ normalForm tool ∈ tools.map normalForm := by
  constructor
  · intro h
    generalize hissue : toolIssueAt (i, tool) = issue at h
    cases h with
    | tool _ hother hsame =>
      obtain rfl := toolIssueAt_inj hissue
      exact normalForm_eq_iff.mpr hsame ▸ List.mem_map_of_mem hother
    | parameter hnested hdotted hroot => cases congrArg Issue.code hissue
  · intro h
    obtain ⟨other, hother, hsame⟩ := List.mem_map.mp h
    exact .tool hplace hother (normalForm_eq_iff.mp hsame.symm)

/-- Only warnings of two codes are silenced. -/
theorem code_of_silenced {issue : Issue} (h : Silenced w tools nested issue) :
    issue.code = .unknownTool ∨ issue.code = .undeclaredParameter := by
  cases h with
  | tool => exact .inl rfl
  | parameter => exact .inr rfl

end Messages

/-- A name without a dot is its own root. -/
theorem rootOf_eq_self {name : String} (h : '.' ∉ name.toList) : rootOf name = name := by
  have hall : ∀ c ∈ name.toList, decide (c ≠ '.') = true :=
    fun c hc => decide_eq_true fun heq => h (heq ▸ hc)
  rw [rootOf, List.takeWhile_eq_self_iff.mpr hall, String.ofList_toList]

section Options

variable {text : String} {path : Option String} {w : Workflow}
variable {calls others : List (List String)} {nested further : Bool} {kept : Issue → Bool}

/-- Issues of another code are kept. -/
theorem filter_eq_self_of_code {issues : List Issue} {code : IssueCode}
    (hkept : ∀ issue, kept issue = true ↔ ¬ Silenced w others.flatten further issue)
    (hissues : ∀ issue ∈ issues, issue.code = code) (htool : code ≠ .unknownTool)
    (hparameter : code ≠ .undeclaredParameter) : issues.filter kept = issues := by
  refine List.filter_eq_self.mpr fun issue hissue => (hkept issue).mpr fun hsilenced => ?_
  have hcode := code_of_silenced hsilenced
  rw [hissues issue hissue] at hcode
  exact hcode.elim htool hparameter

theorem parameterIssues_filter (h : Workflow.read text path = .ok w)
    (hnested : nested = true → further = true)
    (hkept : ∀ issue, kept issue = true ↔ ¬ Silenced w others.flatten further issue) :
    parameterIssues further w = (parameterIssues nested w).filter kept := by
  cases hschema : w.header.input.schema with
  | none =>
    have hsame : parameterIssues further w = parameterIssues nested w := by
      simp only [parameterIssues, hschema]
    have hcode : ∀ issue ∈ parameterIssues nested w, issue.code = .inputSchemaMissing := by
      simp only [parameterIssues, hschema]
      exact fun _ => code_of_mem_issueIf
    rw [hsame, filter_eq_self_of_code hkept hcode (by decide) (by decide)]
  | some schema =>
    rw [parameterIssues_of_schema h further hschema, parameterIssues_of_schema h nested hschema,
      List.filter_map, List.filter_filter]
    refine congrArg _ (List.filter_congr fun name _ => ?_)
    rw [Bool.eq_iff_iff, Bool.and_eq_true, Function.comp_apply, hkept, silenced_undeclaredIssue,
      Bool.not_eq_true', Bool.not_eq_true', isDeclared_eq_false_iff, isDeclared_eq_false_iff,
      hschema]
    unfold Undeclared
    constructor
    · rintro ⟨hkey, hroot⟩
      exact ⟨fun ⟨hfurther, _, _, hmem, hkeys⟩ =>
          hroot ⟨hfurther, Option.some.inj hmem ▸ hkeys⟩,
        hkey, fun ⟨hn, hkeys⟩ => hroot ⟨hnested hn, hkeys⟩⟩
    · rintro ⟨hloud, hkey, -⟩
      refine ⟨hkey, fun ⟨hfurther, hkeys⟩ => ?_⟩
      by_cases hdotted : '.' ∈ name.toList
      · exact hloud ⟨hfurther, hdotted, schema, rfl, hkeys⟩
      · exact hkey (rootOf_eq_self hdotted ▸ hkeys)

theorem toolIssues_filter (h : Workflow.read text path = .ok w)
    (htools : ∀ tool ∈ calls.flatten, ∃ other ∈ others.flatten, SameTool tool other)
    (hkept : ∀ issue, kept issue = true ↔ ¬ Silenced w others.flatten further issue) :
    toolIssues (Validator.knowing others).extraTools w =
      (toolIssues (Validator.knowing calls).extraTools w).filter kept := by
  have hdetected := isBuiltin_of_detected h
  rw [toolIssues_eq hdetected, toolIssues_eq hdetected, List.filter_map, List.filter_filter]
  refine congrArg _ (List.filter_congr fun entry hentry => ?_)
  obtain ⟨i, tool⟩ := entry
  have hplace := (mem_firstTools.mp hentry).1
  have hmore : normalForm tool ∈ (Validator.knowing calls).extraTools →
      normalForm tool ∈ (Validator.knowing others).extraTools := by
    rw [Validator.mem_knowing, Validator.mem_knowing, List.mem_map, List.mem_map]
    rintro ⟨first, hfirst, hname⟩
    obtain ⟨other, hother, hsame⟩ := htools first hfirst
    exact ⟨other, hother, (normalForm_eq_iff.mpr hsame).symm.trans hname⟩
  rw [Bool.eq_iff_iff, Bool.and_eq_true, Function.comp_apply, hkept, silenced_toolIssueAt hplace,
    ← Validator.mem_knowing]
  simp only [isKnownTool, Bool.not_eq_true', Bool.or_eq_false_iff, List.contains_eq_mem,
    decide_eq_false_iff_not]
  constructor
  · rintro ⟨hbuiltin, hunknown⟩
    exact ⟨hunknown, hbuiltin, mt hmore hunknown⟩
  · rintro ⟨hunknown, hbuiltin, -⟩
    exact ⟨hbuiltin, hunknown⟩

end Options

/-- A validator that was told of more tools, or that accepts dotted parameters through their
roots, finds the same errors, and the same warnings but for those that its options silence. -/
theorem options_silence_warnings {text : String} {path : Option String} {w : Workflow}
    (h : Workflow.read text path = .ok w) {calls others : List (List String)}
    {nested further : Bool}
    (htools : ∀ tool ∈ calls.flatten, ∃ other ∈ others.flatten, SameTool tool other)
    (hnested : nested = true → further = true) :
    ((Validator.withOptions others further).validate w).errors =
        ((Validator.withOptions calls nested).validate w).errors ∧
      ((Validator.withOptions others further).validate w).warnings.Sublist
        ((Validator.withOptions calls nested).validate w).warnings ∧
      ∃ kept : Issue → Bool,
        ((Validator.withOptions others further).validate w).warnings =
          ((Validator.withOptions calls nested).validate w).warnings.filter kept ∧
        ∀ issue, kept issue = false ↔ Silenced w others.flatten further issue := by
  classical
  have hkept : ∀ issue, decide (¬ Silenced w others.flatten further issue) = true ↔
      ¬ Silenced w others.flatten further issue := fun issue => decide_eq_true_iff
  have hwarnings : ((Validator.withOptions others further).validate w).warnings =
      ((Validator.withOptions calls nested).validate w).warnings.filter
        fun issue => decide (¬ Silenced w others.flatten further issue) := by
    rw [warnings_eq, warnings_eq, List.filter_append, List.filter_append, List.filter_append,
      filter_eq_self_of_code hkept (fun _ => code_of_mem_dependencies) (by decide) (by decide),
      filter_eq_self_of_code hkept (fun _ => code_of_mem_extensions) (by decide) (by decide)]
    exact congrArg₂ _ (congrArg _ (parameterIssues_filter h hnested hkept))
      (toolIssues_filter h htools hkept)
  refine ⟨by rw [errors_eq, errors_eq], hwarnings ▸ List.filter_sublist, _, hwarnings,
    fun issue => ?_⟩
  rw [decide_eq_false_iff_not, not_not]

/-- Of three unknown tools one is left when two more are known; of three parameters two are left
when a dotted one is accepted through its root. -/
theorem options_silence_known_tools_and_roots :
    (∃ w, Workflow.read toolDocument none = .ok w ∧
      ((Validator.withOptions [["b"]] false).validate w).warnings =
        [(0, "Web_Search"), (2, "x"), (4, "Deploy")].map toolIssueAt ∧
      ((Validator.withOptions [["B", "X"], ["web_search"]] false).validate w).warnings =
        [toolIssueAt (4, "Deploy")] ∧
      ((Validator.withOptions [["B", "X"], ["web_search"]] false).validate w).warnings.Sublist
        ((Validator.withOptions [["b"]] false).validate w).warnings) ∧
    ∃ w, Workflow.read dottedDocument none = .ok w ∧
      ((Validator.withOptions [] false).validate w).warnings =
        [undeclaredIssue "b" 7, undeclaredIssue "config.env" 6, undeclaredIssue "x" 6] ∧
      ((Validator.withOptions [] true).validate w).warnings =
        [undeclaredIssue "b" 7, undeclaredIssue "x" 6] ∧
      ((Validator.withOptions [] true).validate w).warnings.Sublist
        ((Validator.withOptions [] false).validate w).warnings := by
  have htools : ∀ tool ∈ [["b"]].flatten,
      ∃ other ∈ [["B", "X"], ["web_search"]].flatten, SameTool tool other := by
    simp only [← normalForm_eq_iff]
    decide +kernel
  have hknown : (Workflow.read toolDocument none).toOption.map (fun w =>
      (((Validator.withOptions [["b"]] false).validate w).warnings,
        ((Validator.withOptions [["B", "X"], ["web_search"]] false).validate w).warnings)) =
      some ([(0, "Web_Search"), (2, "x"), (4, "Deploy")].map toolIssueAt,
        [toolIssueAt (4, "Deploy")]) := by
    decide +kernel
  have hroots : (Workflow.read dottedDocument none).toOption.map (fun w =>
      (((Validator.withOptions [] false).validate w).warnings,
        ((Validator.withOptions [] true).validate w).warnings)) =
      some ([undeclaredIssue "b" 7, undeclaredIssue "config.env" 6, undeclaredIssue "x" 6],
        [undeclaredIssue "b" 7, undeclaredIssue "x" 6]) := by
    decide +kernel
  constructor
  · obtain ⟨w, hread, hfound⟩ := toOption_map_eq_some.mp hknown
    obtain ⟨hfew, hmore⟩ := Prod.mk.inj hfound
    exact ⟨w, hread, hfew, hmore, (options_silence_warnings hread htools id).2.1⟩
  · obtain ⟨w, hread, hfound⟩ := toOption_map_eq_some.mp hroots
    obtain ⟨hflat, hthrough⟩ := Prod.mk.inj hfound
    have htold : ∀ tool ∈ ([] : List (List String)).flatten,
        ∃ other ∈ ([] : List (List String)).flatten, SameTool tool other := by simp
    exact ⟨w, hread, hflat, hthrough, (options_silence_warnings hread htold fun _ => rfl).2.1⟩

end Runbook
