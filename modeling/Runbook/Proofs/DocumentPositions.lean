import Mathlib.Data.List.TakeWhile
import Runbook.Proofs.HeaderGrammar
import Runbook.Proofs.OutlineLines
import Runbook.Proofs.ParameterReferences
import Runbook.Proofs.WorkflowReading

/-!
Positions in a document. Whatever layout the document has, the line numbers of the header, of the
body and of everything that is found in the body are those of the whole text, and so is the line
that a fault of the header is reported for.
-/

namespace Runbook

open Text Document

namespace FrontMatter

/-- The header begins behind as many line feeds as its line number says. -/
theorem header_place {document header : String} (h : (split document).header = some header) :
    ∃ before after, document.toList = before ++ (header.toList ++ after) ∧ IsClosed before ∧
      IsClosed header.toList ∧ (split document).headerLine = lineFeeds before + 1 := by
  obtain ⟨l, hl, htext, hheader, -⟩ := Layout.exists_formed h
  obtain ⟨lines, hlines, hflatten⟩ := hl.header
  refine ⟨l.lead ++ l.opening, l.closing ++ l.body, ?_, ?_, ?_, ?_⟩
  · rw [← htext, ← hheader, Layout.text]
    simp only [List.append_assoc]
  · exact hl.opening.isClosed_append l.lead
  · rw [← hheader, hflatten]
    exact isClosed_flatten fun line hline => (hlines line hline).1
  · rw [hl.split_eq htext.symm, lineFeeds_append, hl.opening.lineFeeds]

/-- The body begins behind as many line feeds as its line number says, and one line later where a
closing line without a line feed leaves no body. -/
theorem body_place (document : String) :
    ∃ before, document.toList = before ++ (split document).body.toList ∧
      (IsClosed before ∧ (split document).bodyLine = lineFeeds before + 1 ∨
        ¬ IsClosed before ∧ (split document).hasHeader = true ∧ (split document).body = "" ∧
          (split document).bodyLine = lineFeeds before + 1 + 1) := by
  cases hheader : (split document).header with
  | none =>
    rw [split_of_no_header hheader]
    exact ⟨[], rfl, .inl ⟨.inl rfl, rfl⟩⟩
  | some header =>
    obtain ⟨l, hl, htext, -, hbody⟩ := Layout.exists_formed hheader
    refine ⟨l.lead ++ l.opening ++ l.header ++ l.closing, ?_, ?_⟩
    · rw [← htext, ← hbody, Layout.text]
    · have hsplit := hl.split_eq htext.symm
      rcases hl.closing with hclosing | ⟨hfree, hnil⟩
      · refine .inl ⟨hclosing.isClosed_append _, ?_⟩
        simp only [hsplit, lineFeeds_append, hl.opening.lineFeeds, hclosing.lineFeeds]
        omega
      · have hzero : lineFeeds l.closing = 0 := List.count_eq_zero_of_not_mem hfree
        refine .inr ⟨?_, by simp [hasHeader, hheader], by simp [hsplit, hnil], ?_⟩
        · rintro (hempty | hlast)
          · exact hl.closing_ne_nil (List.append_eq_nil_iff.mp hempty).2
          · rw [List.getLast?_append_of_ne_nil _ hl.closing_ne_nil] at hlast
            exact hfree (List.mem_of_getLast? hlast)
        · simp only [hsplit, lineFeeds_append, hl.opening.lineFeeds, hzero]
          omega

theorem one_le_bodyLine (document : String) : 1 ≤ (split document).bodyLine := by
  obtain ⟨before, -, ⟨-, hline⟩ | ⟨-, -, -, hline⟩⟩ := body_place document <;> omega

/-- The lines of the body are those of the document from its line number on. -/
theorem lineAt_of_body {document : String} {k : Nat} {line : List Char}
    (h : (lines (split document).body.toList)[k]? = some line) :
    LineAt document.toList ((split document).bodyLine + k) line := by
  have hbody : LineAt (split document).body.toList (k + 1) line :=
    lineAt_iff.mpr ⟨Nat.le_add_left 1 k, h⟩
  obtain ⟨before, htext, ⟨hclosed, hline⟩ | ⟨-, -, hempty, -⟩⟩ := body_place document
  · have hwithin := hbody.within hclosed (.inr rfl)
    rw [List.append_nil, ← htext] at hwithin
    have hnumber : (split document).bodyLine + k = lineFeeds before + (k + 1) := by omega
    rwa [hnumber]
  · simp [hempty, lines, splitLines] at h

/-- A document with a header is not blank, since its opening line is not. -/
theorem not_blank_of_header {document header : String}
    (h : (split document).header = some header) : isBlankString document = false := by
  obtain ⟨l, hl, htext, -, -⟩ := Layout.exists_formed h
  by_contra hblank
  rw [Bool.not_eq_false, isBlankString, isBlankText, List.all_eq_true] at hblank
  have hnil : trimStart document.toList = [] := List.dropWhile_eq_nil_iff.mpr hblank
  rw [← htext, hl.trimStart_text] at hnil
  exact hl.opening.ne_nil (List.append_eq_nil_iff.mp hnil).1

end FrontMatter

namespace Yaml

/-- Faults are located from line one on. -/
theorem Fault.one_le_line {fault : Fault} {line column : Nat}
    (h : fault.location? = some (line, column)) : 1 ≤ line := by
  cases fault <;> simp [location?] at h <;> omega

end Yaml

open FrontMatter

/-- What has been found in the body of a workflow stands in the document on the lines that are
named: references, headings, and the first reference to each parameter in the body. -/
structure Workflow.FoundIn (w : Workflow) (text : String) : Prop where
  references : ∀ r ∈ w.content.subWorkflowReferences, ∃ line, LineAt text.toList r.line line ∧
    executePath? line = some r.path.toList
  headings : ∀ h ∈ w.content.headings, ∃ line, LineAt text.toList h.line line ∧
    heading? line = some (h.level, h.text.toList)
  parameters : ∀ name n, w.content.parameterLine? name = some n → (split text).bodyLine ≤ n ∧
    (∃ line, LineAt text.toList n line ∧ token name.toList <:+: line) ∧
    ∀ m line, (split text).bodyLine ≤ m → m < n → LineAt text.toList m line →
      ¬ token name.toList <:+: line

theorem Workflow.foundIn_of_read {text : String} {path : Option String} {w : Workflow}
    (h : Workflow.read text path = .ok w) : w.FoundIn text := by
  obtain ⟨-, header, -, rfl⟩ := Workflow.read_eq_ok_iff.mp h
  have hfirst := one_le_bodyLine text
  obtain ⟨hheadings, hreferences⟩ := Content.located (split text).body hfirst
  refine ⟨?_, ?_, ?_⟩
  · intro r hr
    obtain ⟨hle, line, hline, hpath⟩ := hreferences r hr
    have hat := lineAt_of_body hline
    rw [Nat.add_sub_cancel' hle] at hat
    exact ⟨line, hat, hpath⟩
  · intro h hh
    obtain ⟨hle, line, hline, hheading⟩ := hheadings h hh
    have hat := lineAt_of_body hline
    rw [Nat.add_sub_cancel' hle] at hat
    exact ⟨line, hat, hheading⟩
  · intro name n hn
    obtain ⟨hle, ⟨line, hline, hfound⟩, hbefore⟩ := Content.parameterLine?_eq_some_iff.mp hn
    simp only [ofHeader, Content.ofBody, Nat.max_eq_left hfirst] at hle hline hbefore
    obtain ⟨hname, htoken⟩ := contains_parameterReferences.mp hfound
    have hat := lineAt_of_body hline
    rw [Nat.add_sub_cancel' hle] at hat
    refine ⟨hle, ⟨line, hat, htoken⟩, ?_⟩
    intro m other hm hmn hother hinfix
    have hlength : m - (split text).bodyLine < (lines (split text).body.toList).length := by
      have hlast := (List.getElem?_eq_some_iff.mp hline).1
      omega
    have hearlier := List.getElem?_eq_getElem hlength
    have hplace := lineAt_of_body hearlier
    rw [Nat.add_sub_cancel' hm] at hplace
    obtain rfl := hplace.unique hother
    have hnone := hbefore _ _ (by omega) hearlier
    rw [contains_parameterReferences.mpr ⟨hname, hinfix⟩] at hnone
    cases hnone

/-- The header stands in the document behind as many line feeds as its line number says, so that
its lines are lines of the document, also the one that a fault in it is reported for. -/
structure FrontMatter.HeaderIn (header text : String) : Prop where
  place : ∃ before after, text.toList = before ++ (header.toList ++ after) ∧ IsClosed before ∧
    (split text).headerLine = 1 + lineFeeds before
  lines : ∀ l line, LineAt header.toList l line →
    LineAt text.toList ((split text).headerLine + l - 1) line
  faults : ∀ (fault : Yaml.Fault) l column, Yaml.read header = .error fault →
    fault.location? = some (l, column) → isBlankString header = false → ∀ path,
      Workflow.read text path = .error (.headerSyntax fault.message
        (some ((split text).headerLine + l - 1)) (some column))

theorem FrontMatter.headerIn_of_split {text header : String}
    (h : (split text).header = some header) : HeaderIn header text := by
  obtain ⟨before, after, htext, hbefore, hclosed, hline⟩ := header_place h
  refine ⟨⟨before, after, htext, hbefore, by omega⟩, ?_, ?_⟩
  · intro l line hl
    have hwithin : LineAt (before ++ (header.toList ++ after)) (lineFeeds before + l) line :=
      hl.within hbefore (.inl hclosed)
    rw [← htext] at hwithin
    have hnumber : (split text).headerLine + l - 1 = lineFeeds before + l := by omega
    rwa [hnumber]
  · intro fault l column hfault hlocation hblank path
    have hl := Yaml.Fault.one_le_line hlocation
    have hread : Header.readFields header (split text).headerLine =
        .error (.headerSyntax fault.message (some ((split text).headerLine + l - 1))
          (some column)) := by
      have hnumber : max (split text).headerLine 1 + (l - 1) =
          (split text).headerLine + l - 1 := by omega
      simp only [Header.readFields, hblank, hfault, hlocation, Option.map_some, hnumber,
        Bool.false_eq_true, if_false]
    rw [Workflow.read_of_not_blank (not_blank_of_header h), Workflow.readHeader, h]
    simp only [Header.read, hread]
    rfl

/-- Every position that is reported is one of the document. -/
theorem positions_in_document (text : String) :
    (∀ path w, Workflow.read text path = .ok w → w.FoundIn text) ∧
    (∀ header, (split text).header = some header → HeaderIn header text) ∧
    ∃ before, text.toList = before ++ (split text).body.toList ∧
      (IsClosed before ∧ (split text).bodyLine = 1 + lineFeeds before ∨
        ¬ IsClosed before ∧ (split text).hasHeader = true ∧ (split text).body = "" ∧
          (split text).bodyLine = 1 + lineFeeds before + 1) := by
  refine ⟨fun _ _ => Workflow.foundIn_of_read, fun _ => headerIn_of_split, ?_⟩
  obtain ⟨before, htext, ⟨hclosed, hline⟩ | ⟨hopen, hheader, hbody, hline⟩⟩ := body_place text
  · exact ⟨before, htext, .inl ⟨hclosed, by omega⟩⟩
  · exact ⟨before, htext, .inr ⟨hopen, hheader, hbody, by omega⟩⟩

/-- White space before the header, which has one line, and carriage returns at some ends. -/
def spacedDocument : String :=
  "\n ---\r\nname: a\n---\n# Title\r\n> Execute: ./b.md\nuse \x7b\x7bx\x7d\x7d"

theorem positions_in_spaced_document :
    (∃ w, Workflow.read spacedDocument none = .ok w ∧ w.content.headings = [⟨1, "Title", 5⟩] ∧
      w.content.subWorkflowReferences = [⟨"./b.md", [], 6⟩] ∧
      w.content.parameterLine? "x" = some 7 ∧ w.FoundIn spacedDocument) ∧
    (split spacedDocument).header = some "name: a\n" ∧ HeaderIn "name: a\n" spacedDocument := by
  have hheader : (split spacedDocument).header = some "name: a\n" := by decide +kernel
  have hfound : (Workflow.read spacedDocument none).toOption.map
      (fun w => (w.content.headings, w.content.subWorkflowReferences,
        w.content.parameterLine? "x")) =
      some ([⟨1, "Title", 5⟩], [⟨"./b.md", [], 6⟩], some 7) := by decide +kernel
  refine ⟨?_, hheader, (positions_in_document spacedDocument).2.1 _ hheader⟩
  cases hread : Workflow.read spacedDocument none with
  | error e => simp [hread, Except.toOption] at hfound
  | ok w =>
    simp only [hread, Except.toOption, Option.map_some, Option.some.injEq, Prod.mk.injEq] at hfound
    exact ⟨w, rfl, hfound.1, hfound.2.1, hfound.2.2,
      (positions_in_document spacedDocument).1 none w hread⟩

end Runbook
