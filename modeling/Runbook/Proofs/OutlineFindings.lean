import Runbook.Document.Content
import Runbook.Proofs.OutlineReading

/-!
The findings of a body by the places of its lines. Each reference and each heading of a body is
that of one line outside of fenced blocks, whose number it has.
-/

namespace Runbook

namespace Document

variable {lines : List (List Char)} {k first : Nat} {l : OutsideLine}

theorem outsideAt?_eq_some_iff :
    outsideAt? lines first k = some l ↔ ∃ line, lines[k]? = some line ∧ isFence line = false ∧
      fencesBefore lines k % 2 = 0 ∧ l = ⟨first + k, line, lines.drop (k + 1)⟩ := by
  rw [outsideAt?, Option.bind_eq_some_iff]
  constructor
  · rintro ⟨line, hline, hread⟩
    split at hread
    · next h => exact ⟨line, hline, h.1, h.2, (Option.some.inj hread).symm⟩
    · cases hread
  · rintro ⟨line, hline, hfence, hfences, rfl⟩
    exact ⟨line, hline, if_pos ⟨hfence, hfences⟩⟩

/-- What the lines outside of fenced blocks give is given by one of them, at its place. -/
theorem mem_filterMap_outsideLines {α : Type} {f : OutsideLine → Option α} {a : α} :
    a ∈ (outsideLines lines first).filterMap f ↔
      ∃ k l, outsideAt? lines first k = some l ∧ f l = some a := by
  rw [List.mem_filterMap]
  constructor
  · rintro ⟨l, hl, ha⟩
    obtain ⟨k, -, hk⟩ := List.mem_filterMap.mp hl
    exact ⟨k, l, hk, ha⟩
  · rintro ⟨k, l, hk, ha⟩
    obtain ⟨line, hline, -⟩ := outsideAt?_eq_some_iff.mp hk
    have hlength := (List.getElem?_eq_some_iff.mp hline).1
    exact ⟨l, List.mem_filterMap.mpr ⟨k, List.mem_range.mpr hlength, hk⟩, ha⟩

theorem reference?_eq_some_iff {r : SubWorkflowReference} :
    l.reference? = some r ↔ ∃ path, captures executePattern l.text = some [path] ∧ path ≠ [] ∧
      r = ⟨.ofList path, Table.ofList (entriesAfter l.following), l.number⟩ := by
  unfold OutsideLine.reference?
  split
  · next path hpath =>
    by_cases hne : path = []
    · simp [hpath, hne]
    · simp [hpath, hne, eq_comm]
  · next hother =>
    refine iff_of_false (by simp) ?_
    rintro ⟨path, hpath, -⟩
    exact hother path hpath

theorem heading?_eq_some_iff {h : Heading} :
    l.heading? = some h ↔ ∃ marks text, captures headingPattern l.text = some [marks, text] ∧
      h = ⟨marks.length, .ofList text, l.number⟩ := by
  unfold OutsideLine.heading?
  split
  · next marks text hheading => simp [hheading, eq_comm]
  · next hother =>
    refine iff_of_false (by simp) ?_
    rintro ⟨marks, text, hheading, -⟩
    exact hother marks text hheading

end Document

open Document

namespace Content

variable {body : String} {first : Nat}

theorem mem_subWorkflowReferences {r : SubWorkflowReference} :
    r ∈ (ofBody body first).subWorkflowReferences ↔ ∃ k l,
      outsideAt? (Text.lines body.toList) (max first 1) k = some l ∧ l.reference? = some r := by
  have hfound := congrArg (·.2.1) (findings_scan body.toList (max first 1))
  simp only [Scan.findings] at hfound
  show r ∈ (scan body.toList (max first 1)).references.reverse ↔ _
  rw [hfound, List.reverse_reverse, mem_filterMap_outsideLines]

theorem mem_headings {h : Heading} :
    h ∈ (ofBody body first).headings ↔ ∃ k l,
      outsideAt? (Text.lines body.toList) (max first 1) k = some l ∧ l.heading? = some h := by
  have hfound := congrArg (·.1) (findings_scan body.toList (max first 1))
  simp only [Scan.findings] at hfound
  show h ∈ (scan body.toList (max first 1)).headings.reverse ↔ _
  rw [hfound, List.reverse_reverse, mem_filterMap_outsideLines]

end Content

end Runbook
