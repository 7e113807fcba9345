import Runbook.Command
import Runbook.Proofs.JsonKeys

/-!
Which workflows can be shown as JSON. A value has a JSON form when every key in it, at any depth,
is a text, a truth value or a finite number. The settings of servers and the parameters of
declarations are kept as they are, so one other key in them leaves a workflow without a JSON view,
and the program crashes where it shows the same workflow as lines of text.
-/

namespace Runbook

theorem isSome_mapM {α β : Type} {f : α → Option β} {as : List α} :
    (as.mapM f).isSome = true ↔ ∀ a ∈ as, (f a).isSome = true := by
  induction as with
  | nil => simp
  | cons a as ih =>
    rw [List.forall_mem_cons, ← ih, List.mapM_cons]
    cases f a with
    | none => simp
    | some b => cases as.mapM f <;> simp

theorem Yaml.isSome_tableView? {t : Table Yaml} :
    (tableView? t).isSome = true ↔ ∀ entry ∈ t, entry.2.JsonKeyed := by
  rw [tableView?, Option.isSome_map, isSome_mapM]
  simp only [Option.isSome_map, isSome_toJson?]

theorem McpServer.isSome_view? {m : McpServer} :
    m.view?.isSome = true ↔ ∀ entry ∈ m.config, entry.2.JsonKeyed := by
  rw [← Yaml.isSome_tableView?, view?]
  cases Yaml.tableView? m.config <;> rfl

theorem SubWorkflow.isSome_view? {s : SubWorkflow} :
    s.view?.isSome = true ↔ ∀ entry ∈ s.parameters, entry.2.JsonKeyed := by
  rw [← Yaml.isSome_tableView?, view?]
  cases Yaml.tableView? s.parameters <;> rfl

/-- The values that an extension keeps as they are can all be shown. -/
structure Extensions.JsonKeyed (e : Extensions) : Prop where
  config : ∀ m ∈ e.mcp, ∀ entry ∈ m.config, entry.2.JsonKeyed
  parameters : ∀ s ∈ e.subWorkflows, ∀ entry ∈ s.parameters, entry.2.JsonKeyed

theorem Extensions.isSome_view? {e : Extensions} : e.view?.isSome = true ↔ e.JsonKeyed := by
  have hmcp : (e.mcp.mapM McpServer.view?).isSome = true ↔
      ∀ m ∈ e.mcp, ∀ entry ∈ m.config, entry.2.JsonKeyed := by
    rw [isSome_mapM]
    simp only [McpServer.isSome_view?]
  have hsub : (e.subWorkflows.mapM SubWorkflow.view?).isSome = true ↔
      ∀ s ∈ e.subWorkflows, ∀ entry ∈ s.parameters, entry.2.JsonKeyed := by
    rw [isSome_mapM]
    simp only [SubWorkflow.isSome_view?]
  have hboth : e.view?.isSome = true ↔ (e.mcp.mapM McpServer.view?).isSome = true ∧
      (e.subWorkflows.mapM SubWorkflow.view?).isSome = true := by
    unfold view?
    cases e.mcp.mapM McpServer.view? with
    | none => simp
    | some servers => cases e.subWorkflows.mapM SubWorkflow.view? <;> simp
  rw [hboth, hmcp, hsub]
  exact ⟨fun h => ⟨h.1, h.2⟩, fun h => ⟨h.config, h.parameters⟩⟩

theorem Workflow.isSome_view? {w : Workflow} :
    w.view?.isSome = true ↔ w.header.extensions.JsonKeyed := by
  rw [← Extensions.isSome_view?, view?]
  cases w.header.extensions.view? <;> rfl

namespace Command

/-- Looking at a workflow file changes nothing, and as lines of text every file that can be read is
shown. As JSON it is shown when the values of its extensions can be; else the program crashes. -/
theorem inspect_of_file (c : Config) (w : Workspace) (file : String) (now : Instant) :
    (∀ e, w.workflow file = .error e → ∀ json,
        (inspect file json).run c w now = (.failed e, w)) ∧
      ∀ workflow, w.workflow file = .ok workflow →
        (inspect file false).run c w now = (.ok workflow.inspectionLines, w) ∧
        (workflow.header.extensions.JsonKeyed → ∃ view, workflow.view? = some view ∧
          (inspect file true).run c w now = (.ok [view.render], w)) ∧
        (¬ workflow.header.extensions.JsonKeyed →
          (inspect file true).run c w now = (⟨[], .crash⟩, w)) := by
  refine ⟨fun e he json => by simp [run, runInspect, he], fun workflow hworkflow => ⟨?_, ?_, ?_⟩⟩
  · simp [run, runInspect, hworkflow]
  · intro hkeyed
    obtain ⟨view, hview⟩ := Option.isSome_iff_exists.mp (Workflow.isSome_view?.mpr hkeyed)
    exact ⟨view, hview, by simp [run, runInspect, hworkflow, hview]⟩
  · intro hkeyed
    have hview : workflow.view? = none := by
      rw [← Option.not_isSome_iff_eq_none, Workflow.isSome_view?]
      exact hkeyed
    simp [run, runInspect, hworkflow, hview]

/-- Two files; the server of the second one has a setting with a null key. -/
def twoFiles : Workspace where
  root := [
    ("a.prompt.md", .file (some "Do it.\n") ⟨0, 0⟩),
    ("b.prompt.md", .file (some "---\nmarkflow.mcp:\n- config:\n    x:\n      ~: 1\n---\nDo it.\n")
      ⟨0, 0⟩)]
  home := []

theorem inspect_twoFiles :
    ((∃ lines, (inspect "a.prompt.md" true).run .standard twoFiles ⟨0, 0⟩ =
        (.ok lines, twoFiles)) ∧
      ∃ lines, (inspect "b.prompt.md" false).run .standard twoFiles ⟨0, 0⟩ =
        (.ok lines, twoFiles)) ∧
    (inspect "b.prompt.md" true).run .standard twoFiles ⟨0, 0⟩ = (⟨[], .crash⟩, twoFiles) ∧
    Ending.crash.status = 101 := by
  have hfirst : (twoFiles.workflow "a.prompt.md").toOption.map
      (fun w => w.header.extensions.view?.isSome) = some true := by decide +kernel
  have hsecond : (twoFiles.workflow "b.prompt.md").toOption.map
      (fun w => w.header.extensions.view?.isSome) = some false := by decide +kernel
  cases ha : twoFiles.workflow "a.prompt.md" with
  | error e => simp [ha, Except.toOption] at hfirst
  | ok a =>
    cases hb : twoFiles.workflow "b.prompt.md" with
    | error e => simp [hb, Except.toOption] at hsecond
    | ok b =>
      simp only [ha, Except.toOption, Option.map_some, Option.some.injEq] at hfirst
      simp only [hb, Except.toOption, Option.map_some, Option.some.injEq] at hsecond
      have hunkeyed : ¬ b.header.extensions.JsonKeyed := by
        rw [← Extensions.isSome_view?, hsecond]
        exact Bool.false_ne_true
      obtain ⟨-, hshown, -⟩ := (inspect_of_file .standard twoFiles "a.prompt.md" ⟨0, 0⟩).2 a ha
      obtain ⟨view, -, hview⟩ := hshown (Extensions.isSome_view?.mp hfirst)
      obtain ⟨htext, -, hcrash⟩ := (inspect_of_file .standard twoFiles "b.prompt.md" ⟨0, 0⟩).2 b hb
      exact ⟨⟨⟨_, hview⟩, ⟨_, htext⟩⟩, hcrash hunkeyed, rfl⟩

end Command

end Runbook
