import Runbook.Proofs.RuleTable
import Runbook.Proofs.ToolNames

/-!
The warnings on tools. Of the tools that a header declares, each name is looked at where it stands
first, and there is a warning for it unless it is built in or known otherwise; the tools that a body
mentions are all built in and give no warning. What a validator has been told about other tools
counts as a set of names, in whatever order and spelling it was told.
-/

namespace Runbook

open Validation Registry

/-! What a validator has been told about tools. -/

namespace Validator

/-- A validator that was told of more tools, some at a time. -/
def knowing (calls : List (List String)) : Validator :=
  calls.foldl Validator.withExtraTools .standard

theorem mem_withExtraTools {v : Validator} {tools : List String} {name : String} :
    name ∈ (v.withExtraTools tools).extraTools ↔
      name ∈ tools.map normalForm ∨ name ∈ v.extraTools := by
  rw [← Names.mem_foldl_insert, List.foldl_map]
  rfl

theorem ascending_withExtraTools {v : Validator} (h : v.extraTools.Ascending)
    (tools : List String) : (v.withExtraTools tools).extraTools.Ascending := by
  have hinsert := h.foldl_insert (tools.map normalForm)
  rwa [List.foldl_map] at hinsert

theorem mem_knowing {calls : List (List String)} {name : String} :
    name ∈ (knowing calls).extraTools ↔ name ∈ calls.flatten.map normalForm := by
  induction calls using List.reverseRecOn with
  | nil => exact Iff.rfl
  | append_singleton calls tools ih =>
    rw [knowing, List.foldl_append, List.foldl_cons, List.foldl_nil, mem_withExtraTools, ← knowing,
      ih, List.flatten_append, List.map_append, List.mem_append, List.flatten_singleton]
    exact Or.comm

theorem ascending_knowing (calls : List (List String)) :
    (knowing calls).extraTools.Ascending := by
  induction calls using List.reverseRecOn with
  | nil => exact List.Pairwise.nil
  | append_singleton calls tools ih =>
    rw [knowing, List.foldl_append]
    exact ascending_withExtraTools ih tools

end Validator

/-- The same names in two lists, in any order, number and spelling. -/
def SameTools (names others : List String) : Prop :=
  (∀ name ∈ names, ∃ other ∈ others, SameTool name other) ∧
    ∀ other ∈ others, ∃ name ∈ names, SameTool name other

theorem SameTools.knowing_eq {calls others : List (List String)}
    (h : SameTools calls.flatten others.flatten) :
    (Validator.knowing calls).extraTools = (Validator.knowing others).extraTools := by
  refine (Validator.ascending_knowing calls).ext (Validator.ascending_knowing others) fun name => ?_
  rw [Validator.mem_knowing, Validator.mem_knowing, List.mem_map, List.mem_map]
  constructor
  · rintro ⟨tool, htool, rfl⟩
    obtain ⟨other, hother, hsame⟩ := h.1 tool htool
    exact ⟨other, hother, (normalForm_eq_iff.mpr hsame).symm⟩
  · rintro ⟨other, hother, rfl⟩
    obtain ⟨tool, htool, hsame⟩ := h.2 other hother
    exact ⟨tool, htool, normalForm_eq_iff.mpr hsame⟩

/-! The tools that are looked at. -/

section Tools

variable {extra : Names} {seen : List String}

/-- Whether nothing is said about a tool. -/
def isKnownTool (extra : Names) (tool : String) : Bool :=
  isBuiltin tool || extra.contains (normalForm tool)

/-- Each tool with its place, where it is the first one of its name. -/
def firstTools (tools : List String) : List (Nat × String) :=
  (indexed tools).filter fun entry =>
    !(tools.take entry.1).any fun other => normalForm other = normalForm entry.2

/-- What is said about a tool at its place in the header. -/
def toolIssueAt (entry : Nat × String) : Issue :=
  unknownToolIssue entry.2 (some ("tools[" ++ toString entry.1 ++ "]"))

/-- Whether the name of a tool is among the names seen or among those of some tools. -/
def isSeen (seen : List String) (tools : List (String × Option String)) (tool : String) : Bool :=
  seen.contains (normalForm tool) || tools.any fun other => normalForm other.1 = normalForm tool

theorem isSeen_cons_of_contains {other : String × Option String} (tool : String)
    (rest : List (String × Option String)) (h : seen.contains (normalForm other.1) = true) :
    isSeen seen (other :: rest) tool = isSeen seen rest tool := by
  unfold isSeen
  by_cases hname : normalForm other.1 = normalForm tool
  · simp [← hname, List.contains_iff_mem.mp h]
  · simp [hname]

/-- A tool that has been looked at is one that has been seen. -/
theorem isSeen_cons (other : String × Option String) (rest : List (String × Option String))
    (tool : String) :
    isSeen (normalForm other.1 :: seen) rest tool = isSeen seen (other :: rest) tool := by
  rw [isSeen, isSeen, Bool.eq_iff_iff]
  simp only [List.contains_cons, List.any_cons, Bool.or_eq_true, beq_iff_eq, decide_eq_true_eq]
  rw [eq_comm (a := normalForm tool)]
  exact or_assoc.trans or_left_comm

/-- One more tool is looked at when neither it nor an earlier one has been seen. -/
theorem toolIssuesFrom_concat (tools : List (String × Option String)) (tool : String)
    (field : Option String) : toolIssuesFrom extra seen (tools ++ [(tool, field)]) =
      toolIssuesFrom extra seen tools ++
        issueIf (!isSeen seen tools tool && !isKnownTool extra tool)
          (unknownToolIssue tool field) := by
  induction tools generalizing seen with
  | nil =>
    simp only [List.nil_append, toolIssuesFrom, isSeen, isKnownTool, isBuiltin_normalForm]
    cases seen.contains (normalForm tool) <;> simp [issueIf]
  | cons first rest ih =>
    rw [List.cons_append, toolIssuesFrom, toolIssuesFrom]
    by_cases hseen : seen.contains (normalForm first.1) = true
    · rw [if_pos hseen, if_pos hseen, ih, isSeen_cons_of_contains tool rest hseen]
    · rw [if_neg hseen, if_neg hseen, ih, isSeen_cons first rest tool, List.append_assoc]

theorem indexed_concat {α : Type} (items : List α) (a : α) :
    indexed (items ++ [a]) = indexed items ++ [(items.length, a)] := by
  simp [indexed, List.zipIdx_append]

theorem mem_indexed {α : Type} {items : List α} {i : Nat} {a : α} :
    (i, a) ∈ indexed items ↔ items[i]? = some a := by
  simp [indexed, List.mem_zipIdx_iff_getElem?]

theorem firstTools_concat (tools : List String) (tool : String) :
    firstTools (tools ++ [tool]) = firstTools tools ++
      if tools.any fun other => normalForm other = normalForm tool then []
      else [(tools.length, tool)] := by
  rw [firstTools, indexed_concat, List.filter_append, firstTools]
  congr 1
  · refine List.filter_congr fun entry hentry => ?_
    have hlength := (List.getElem?_eq_some_iff.mp (mem_indexed.mp hentry)).1
    rw [List.take_append_of_le_length (Nat.le_of_lt hlength)]
  · rw [List.filter_singleton, List.take_left]
    cases tools.any fun other => normalForm other = normalForm tool <;> rfl

/-- By induction on the tools from their end: each one is looked at when it is a first one. -/
theorem toolIssuesFrom_declared (extra : Names) (tools : List String) :
    toolIssuesFrom extra [] ((indexed tools).map fun (i, tool) =>
        (tool, some ("tools[" ++ toString i ++ "]"))) =
      ((firstTools tools).filter fun entry => !isKnownTool extra entry.2).map toolIssueAt := by
  induction tools using List.reverseRecOn with
  | nil => rfl
  | append_singleton tools tool ih =>
    have hnames : (indexed tools).map (·.2) = tools := by
      rw [indexed, List.map_map]
      exact List.zipIdx_map_fst 0 tools
    have hearlier : isSeen [] ((indexed tools).map fun (i, tool) =>
          (tool, some ("tools[" ++ toString i ++ "]"))) tool =
        tools.any fun other => normalForm other = normalForm tool := by
      conv_rhs => rw [← hnames]
      rw [isSeen, List.any_map, List.any_map]
      rfl
    rw [indexed_concat, List.map_append, List.map_singleton, toolIssuesFrom_concat, ih, hearlier,
      firstTools_concat, List.filter_append, List.map_append]
    congr 1
    cases tools.any fun other => normalForm other = normalForm tool <;>
      cases hknown : isKnownTool extra tool <;>
        simp [issueIf, toolIssueAt, hknown]

/-- Tools that are built in give no warning. -/
theorem toolIssuesFrom_append_builtin {tools detected : List (String × Option String)}
    (h : ∀ tool ∈ detected, isBuiltin tool.1 = true) :
    toolIssuesFrom extra seen (tools ++ detected) = toolIssuesFrom extra seen tools := by
  induction detected using List.reverseRecOn with
  | nil => rw [List.append_nil]
  | append_singleton detected tool ih =>
    have hknown : isKnownTool extra tool.1 = true := by
      rw [isKnownTool, h tool (by simp), Bool.true_or]
    rw [← List.append_assoc, toolIssuesFrom_concat (tools ++ detected) tool.1 tool.2, hknown,
      ih fun other hother => h other (List.mem_append_left _ hother)]
    simp [issueIf]

/-- The tools that a body mentions are built in. -/
theorem isBuiltin_of_detected {text : String} {path : Option String} {w : Workflow}
    (h : Workflow.read text path = .ok w) : ∀ tool ∈ w.content.toolReferences,
      isBuiltin tool = true := by
  obtain ⟨-, header, -, rfl⟩ := Workflow.read_eq_ok_iff.mp h
  intro tool htool
  exact isBuiltin_of_mem (List.mem_of_mem_filter (Names.mem_ofList.mp htool))

/-- The warnings are those on the first tools of their names that are not known. -/
theorem toolIssues_eq {w : Workflow} (h : ∀ tool ∈ w.content.toolReferences, isBuiltin tool = true)
    (extra : Names) : toolIssues extra w =
      ((firstTools w.header.tools).filter fun entry => !isKnownTool extra entry.2).map
        toolIssueAt := by
  have hdetected : ∀ tool ∈ w.content.toolReferences.map fun tool => (tool, (none : Option String)),
      isBuiltin tool.1 = true := by
    intro entry hentry
    obtain ⟨tool, htool, rfl⟩ := List.mem_map.mp hentry
    exact h tool htool
  rw [toolIssues, toolIssuesFrom_append_builtin hdetected, toolIssuesFrom_declared]

end Tools

/-- What warnings on tools are about: the places of the tools that are neither built in nor known
otherwise, each name at its first place. -/
structure UnknownTools (tools extra : List String) (found : List (Nat × String)) : Prop where
  ascending : found.Pairwise (·.1 < ·.1)
  first : ∀ i tool, (i, tool) ∈ found → tools[i]? = some tool ∧
    ∀ j other, j < i → tools[j]? = some other → normalForm other ≠ normalForm tool
  once : (found.map fun entry => normalForm entry.2).Nodup
  unknown : ∀ name, name ∈ found.map (fun entry => normalForm entry.2) ↔
    name ∈ tools.map normalForm ∧ name ∉ builtinTools ∧ name ∉ extra.map normalForm

theorem mem_firstTools {tools : List String} {i : Nat} {tool : String} :
    (i, tool) ∈ firstTools tools ↔ tools[i]? = some tool ∧
      ∀ j other, j < i → tools[j]? = some other → normalForm other ≠ normalForm tool := by
  have hearlier : (!(tools.take i).any fun other => normalForm other = normalForm tool) = true ↔
      ∀ j other, j < i → tools[j]? = some other → normalForm other ≠ normalForm tool := by
    simp only [Bool.not_eq_true', List.any_eq_false, decide_eq_true_eq]
    constructor
    · intro h j other hj hother
      rw [← List.getElem?_take_of_lt hj] at hother
      exact h other (List.mem_of_getElem? hother)
    · intro h other hother
      obtain ⟨j, hplace⟩ := List.mem_iff_getElem?.mp hother
      rw [List.getElem?_take] at hplace
      split at hplace
      · next hj => exact h j other hj hplace
      · cases hplace
  rw [firstTools, List.mem_filter, mem_indexed, hearlier]

/-- Every name stands somewhere first. -/
theorem exists_firstTool {tools : List String} {name : String} (h : name ∈ tools.map normalForm) :
    ∃ i tool, (i, tool) ∈ firstTools tools ∧ normalForm tool = name := by
  induction tools using List.reverseRecOn with
  | nil => cases h
  | append_singleton tools tool ih =>
    rw [firstTools_concat]
    by_cases hearlier : name ∈ tools.map normalForm
    · obtain ⟨i, other, hother, hname⟩ := ih hearlier
      exact ⟨i, other, List.mem_append_left _ hother, hname⟩
    · obtain rfl : normalForm tool = name := by simpa [hearlier, eq_comm] using h
      have hnone : (tools.any fun other => normalForm other = normalForm tool) = false := by
        rw [List.any_eq_false]
        intro other hother hsame
        exact hearlier (of_decide_eq_true hsame ▸ List.mem_map_of_mem hother)
      exact ⟨tools.length, tool, by simp [hnone], rfl⟩

theorem pairwise_firstTools (tools : List String) :
    (firstTools tools).Pairwise (·.1 < ·.1) := by
  refine List.Pairwise.filter _ ?_
  have hplaces : (indexed tools).map (·.1) = List.range tools.length := by
    rw [indexed, List.map_map, List.range_eq_range']
    exact List.zipIdx_map_snd 0 tools
  exact List.pairwise_map.mp (hplaces ▸ List.pairwise_lt_range)

theorem unknownTools_filter {tools extra : List String} {known : Names}
    (hknown : ∀ name, name ∈ known ↔ name ∈ extra.map normalForm) :
    UnknownTools tools extra
      ((firstTools tools).filter fun entry => !isKnownTool known entry.2) where
  ascending := (pairwise_firstTools tools).filter _
  first i tool h := mem_firstTools.mp (List.mem_of_mem_filter h)
  once := by
    refine List.pairwise_map.mpr (((pairwise_firstTools tools).filter _).imp_of_mem ?_)
    rintro ⟨i, tool⟩ ⟨j, other⟩ hi hj hlt
    exact (mem_firstTools.mp (List.mem_of_mem_filter hj)).2 i tool hlt
      (mem_firstTools.mp (List.mem_of_mem_filter hi)).1
  unknown name := by
    have hunknown : ∀ tool, normalForm tool = name → ((!isKnownTool known tool) = true ↔
        name ∉ builtinTools ∧ name ∉ extra.map normalForm) := by
      rintro tool rfl
      rw [Bool.not_eq_true', isKnownTool, Bool.or_eq_false_iff, isBuiltin, ← hknown]
      simp
    constructor
    · intro h
      obtain ⟨⟨i, tool⟩, hentry, hname⟩ := List.mem_map.mp h
      obtain ⟨hfirst, hfound⟩ := List.mem_filter.mp hentry
      have htool := List.mem_of_getElem? (mem_firstTools.mp hfirst).1
      exact ⟨hname ▸ List.mem_map_of_mem htool, (hunknown tool hname).mp hfound⟩
    · rintro ⟨htool, hrest⟩
      obtain ⟨i, tool, hfirst, hname⟩ := exists_firstTool htool
      exact List.mem_map.mpr
        ⟨(i, tool), List.mem_filter.mpr ⟨hfirst, (hunknown tool hname).mpr hrest⟩, hname⟩

/-- There is a warning for every tool of the header that is neither built in nor one that the
validator was told about, at the first place of its name, and for nothing that the body mentions;
how the validator was told does not count. -/
theorem tool_warnings_exact {text : String} {path : Option String} {w : Workflow}
    (h : Workflow.read text path = .ok w) (calls : List (List String)) :
    (∃ found, UnknownTools w.header.tools calls.flatten found ∧
      toolIssues (Validator.knowing calls).extraTools w = found.map toolIssueAt) ∧
    toolIssues (Validator.knowing calls).extraTools w =
      toolIssues (Validator.knowing calls).extraTools
        { w with content := { w.content with toolReferences := [] } } ∧
    (∀ others : List (List String), SameTools calls.flatten others.flatten →
      toolIssues (Validator.knowing others).extraTools w =
        toolIssues (Validator.knowing calls).extraTools w) ∧
    ∀ v : Validator, (v.validate w).warnings.filter (·.code = .unknownTool) =
      toolIssues v.extraTools w := by
  have hdetected := isBuiltin_of_detected h
  refine ⟨⟨_, unknownTools_filter fun _ => Validator.mem_knowing, toolIssues_eq hdetected _⟩, ?_,
    fun others hsame => by rw [hsame.knowing_eq], fun v => ?_⟩
  · rw [toolIssues_eq hdetected, toolIssues_eq]
    intro tool htool
    cases htool
  · have hfilter := filter_warnings v (w := w) (fun code => code = .unknownTool) rfl
    simpa using hfilter

/-- A header with three spellings of one tool, two of another, and two tools that are known; the
body mentions one that is built in. -/
def toolDocument : String :=
  "---\ntools:\n- Web_Search\n- BUILD_test\n- x\n- ' web-search '\n- Deploy\n- web-Search\n" ++
    "- X\n---\nuse File-System\n"

theorem tool_warnings_of_toolDocument : ∃ w, Workflow.read toolDocument none = .ok w ∧
    (∃ found, UnknownTools w.header.tools ["a", "DEPLOY ", "b"] found ∧
      toolIssues (Validator.knowing [["a"], ["DEPLOY ", "b"]]).extraTools w =
        found.map toolIssueAt) ∧
    SameTools ["a", "DEPLOY ", "b"] ["B", "\tdeploy", "A", "b"] ∧
    toolIssues (Validator.knowing [["B", "\tdeploy", "A", "b"]]).extraTools w =
      [(0, "Web_Search"), (2, "x")].map toolIssueAt := by
  have hfound : (Workflow.read toolDocument none).toOption.map
      (toolIssues (Validator.knowing [["a"], ["DEPLOY ", "b"]]).extraTools) =
      some ([(0, "Web_Search"), (2, "x")].map toolIssueAt) := by
    decide +kernel
  have hsame : SameTools ["a", "DEPLOY ", "b"] ["B", "\tdeploy", "A", "b"] := by
    simp only [SameTools, ← normalForm_eq_iff]
    decide +kernel
  obtain ⟨w, hread, hfound⟩ := toOption_map_eq_some.mp hfound
  have hexact := tool_warnings_exact hread [["a"], ["DEPLOY ", "b"]]
  exact ⟨w, hread, hexact.1, hsame,
    (hexact.2.2.1 [["B", "\tdeploy", "A", "b"]] hsame).trans hfound⟩

/-- A header that declares a tool whose name has a letter outside of ASCII. -/
def accentedDocument : String := "---\ntools: \u00e9\n---\nbody\n"

/-- Letters outside of ASCII are compared as they are written: a validator that was told of a tool
in a capital letter does not know it in a small one. -/
theorem capital_letter_unknown : ∃ w, Workflow.read accentedDocument none = .ok w ∧
    toolIssues (Validator.knowing [["\u00e9"]]).extraTools w = [] ∧
    toolIssues (Validator.knowing [["\u00c9"]]).extraTools w = [toolIssueAt (0, "\u00e9")] := by
  have hfound : (Workflow.read accentedDocument none).toOption.map (fun w =>
      (toolIssues (Validator.knowing [["\u00e9"]]).extraTools w,
        toolIssues (Validator.knowing [["\u00c9"]]).extraTools w)) =
      some ([], [toolIssueAt (0, "\u00e9")]) := by
    decide +kernel
  obtain ⟨w, hread, hfound⟩ := toOption_map_eq_some.mp hfound
  exact ⟨w, hread, Prod.mk.inj hfound⟩

end Runbook
