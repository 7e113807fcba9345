import Runbook.Document.Content

/-!
Where the findings of a body come from. One step of the reader passes over a line, finds a
heading, a reference or a parameter in it, or puts it off; so every finding names a line of the
body that says what was found.
-/

namespace Runbook

namespace Document

namespace Scan

variable {s : Scan} {line : List Char} {rest : List (List Char)}

/-- What one step can make of the line it stands before. -/
inductive Move (s : Scan) (line : List Char) : Scan → Prop
  | pass (fenced : Bool) (codeBlocks : Nat) (mode : Mode) :
      Move s line { s.advance with fenced, codeBlocks, mode }
  | reference (path : List Char) (hfenced : s.fenced = false) (hfence : isFence line = false)
      (hmode : s.mode = .scanning) (hpath : executePath? line = some path) (hne : path ≠ []) :
      Move s line { s.advance with
        mode := .awaiting
        references := ⟨.ofList path, [], s.line⟩ :: s.references }
  | heading (level : Nat) (text : List Char) (hfenced : s.fenced = false)
      (hfence : isFence line = false) (hmode : s.mode = .scanning)
      (hpath : executePath? line = none) (hheading : heading? line = some (level, text)) :
      Move s line { s.advance with headings := ⟨level, .ofList text, s.line⟩ :: s.headings }
  | parameter (key value : List Char) (hfenced : s.fenced = false) (hfence : isFence line = false)
      (hmode : s.mode = .parameters) (hread : parameter? line = some (key, value))
      (hreferences : s.references ≠ []) :
      Move s line (s.addParameter key value).advance
  | again (hfenced : s.fenced = false) (hfence : isFence line = false)
      (hmode : s.mode ≠ .scanning) : Move s line { s with mode := .scanning }

theorem move_pass (s : Scan) (line : List Char) : Move s line s.advance :=
  .pass s.fenced s.codeBlocks s.mode

theorem move_readLine (hfenced : s.fenced = false) (hfence : isFence line = false)
    (hmode : s.mode = .scanning) : Move s line (s.readLine line) := by
  unfold readLine
  split
  · exact move_pass s line
  · next path hne hpath => exact .reference path hfenced hfence hmode hpath fun h => hne (h ▸ rfl)
  · next hpath =>
    split
    · next level text hheading => exact .heading level text hfenced hfence hmode hpath hheading
    · exact move_pass s line

theorem move_step (h : s.rest = line :: rest) : Move s line s.step := by
  unfold step
  split
  · next hnil => simp [hnil] at h
  · next first more hrest =>
    obtain rfl : line = first := (List.cons.inj (h.symm.trans hrest)).1
    split
    · exact .pass _ s.codeBlocks s.mode
    · next hfenced =>
      split
      · exact .pass true _ .scanning
      · next hfence =>
        simp only [Bool.not_eq_true] at hfenced hfence
        split
        · next hmode => exact move_readLine hfenced hfence hmode
        · next hmode =>
          split
          · exact move_pass s line
          · split
            · exact .pass s.fenced s.codeBlocks .parameters
            · exact .again hfenced hfence (by simp [hmode])
        · next hmode =>
          split
          · next key value r refs hread hreferences =>
            exact .parameter key value hfenced hfence hmode hread (by simp [hreferences])
          · exact .again hfenced hfence (by simp [hmode])

end Scan

/-- A heading that a line of the body makes; the first of them has the number `first`. -/
def HeadingIn (lines : List (List Char)) (first : Nat) (h : Heading) : Prop :=
  first ≤ h.line ∧ ∃ line, lines[h.line - first]? = some line ∧
    heading? line = some (h.level, h.text.toList)

/-- A reference whose path a line of the body gives. -/
def ReferenceIn (lines : List (List Char)) (first : Nat) (r : SubWorkflowReference) : Prop :=
  first ≤ r.line ∧ ∃ line, lines[r.line - first]? = some line ∧
    executePath? line = some r.path.toList

namespace Scan

/-- All that has been found stands in the lines of the body, and the rest of them are to come. -/
structure Located (lines : List (List Char)) (first : Nat) (s : Scan) : Prop where
  begun : first ≤ s.line
  rest : s.rest = lines.drop (s.line - first)
  headings : ∀ h ∈ s.headings, HeadingIn lines first h
  references : ∀ r ∈ s.references, ReferenceIn lines first r

variable {s : Scan} {line : List Char} {rest lines : List (List Char)} {first : Nat}

theorem located_start (lines : List (List Char)) (first : Nat) :
    Located lines first (start lines first) where
  begun := Nat.le_refl first
  rest := by simp [start]
  headings := by simp [start]
  references := by simp [start]

theorem Located.line_eq (hs : Located lines first s) (h : s.rest = line :: rest) :
    lines[s.line - first]? = some line := by
  rw [← List.head?_drop, ← hs.rest, h, List.head?_cons]

/-- Going over a line loses nothing. -/
theorem Located.advance (hs : Located lines first s) : Located lines first s.advance where
  begun := Nat.le_succ_of_le hs.begun
  rest := by
    change s.rest.tail = lines.drop (s.line + 1 - first)
    rw [hs.rest, List.tail_drop, Nat.sub_add_comm hs.begun]
  headings := hs.headings
  references := hs.references

/-- A parameter leaves the place and the path of its reference alone. -/
theorem Located.addParameter (hs : Located lines first s) (key value : List Char) :
    Located lines first (s.addParameter key value) := by
  unfold Scan.addParameter
  split
  · exact hs
  · next r more hreferences =>
    obtain ⟨hr, hmore⟩ := List.forall_mem_cons.mp (hreferences ▸ hs.references)
    exact ⟨hs.begun, hs.rest, hs.headings, List.forall_mem_cons.mpr ⟨hr, hmore⟩⟩

theorem Located.move (hs : Located lines first s) (h : s.rest = line :: rest) {t : Scan}
    (hmove : Move s line t) : Located lines first t := by
  have hline := hs.line_eq h
  have hnext := hs.advance
  cases hmove with
  | pass fenced codeBlocks mode => exact ⟨hnext.begun, hnext.rest, hs.headings, hs.references⟩
  | reference path _ _ _ hpath hne =>
    refine ⟨hnext.begun, hnext.rest, hs.headings, List.forall_mem_cons.mpr ⟨?_, hs.references⟩⟩
    exact ⟨hs.begun, line, hline, by rw [hpath, String.toList_ofList]⟩
  | heading level text _ _ _ _ hheading =>
    refine ⟨hnext.begun, hnext.rest, List.forall_mem_cons.mpr ⟨?_, hs.headings⟩, hs.references⟩
    exact ⟨hs.begun, line, hline, by rw [hheading, String.toList_ofList]⟩
  | parameter key value => exact (hs.addParameter key value).advance
  | again => exact ⟨hs.begun, hs.rest, hs.headings, hs.references⟩

/-- What every step keeps holds when all lines are read. -/
theorem finish_keeps {P : Scan → Prop} (hstep : ∀ s, P s → s.rest ≠ [] → P s.step)
    (hs : P s) : P s.finish := by
  induction s using finish.induct with
  | case1 s hnil => rwa [finish, if_pos hnil]
  | case2 s hmore ih =>
    rw [finish, if_neg hmore]
    exact ih (hstep s hs hmore)

theorem located_finish (hs : Located lines first s) : Located lines first s.finish := by
  refine finish_keeps ?_ hs
  intro s hs hmore
  obtain ⟨line, rest, hrest⟩ := List.exists_cons_of_ne_nil hmore
  exact hs.move hrest (move_step hrest)

end Scan

end Document

open Document

/-- Every finding in a body names the line that it was made in. -/
theorem Content.located (body : String) {line : Nat} (hline : 1 ≤ line) :
    (∀ h ∈ (ofBody body line).headings, HeadingIn (Text.lines body.toList) line h) ∧
      ∀ r ∈ (ofBody body line).subWorkflowReferences,
        ReferenceIn (Text.lines body.toList) line r := by
  have hscan := Scan.located_finish (Scan.located_start (Text.lines body.toList) line)
  simp only [ofBody, Nat.max_eq_left hline, List.mem_reverse]
  exact ⟨hscan.headings, hscan.references⟩

/-- The line of a parameter is the first one of the body that refers to it. -/
theorem Content.parameterLine?_eq_some_iff {c : Content} {name : String} {n : Nat} :
    c.parameterLine? name = some n ↔ c.bodyLine ≤ n ∧
      (∃ line, (Text.lines c.body.toList)[n - c.bodyLine]? = some line ∧
        (Document.parameterReferences line).contains name = true) ∧
      ∀ m line, m < n - c.bodyLine → (Text.lines c.body.toList)[m]? = some line →
        (Document.parameterReferences line).contains name = false := by
  simp only [parameterLine?, Option.map_eq_some_iff, List.findIdx?_eq_some_iff_getElem]
  constructor
  · rintro ⟨k, ⟨hk, hfound, hbefore⟩, rfl⟩
    rw [Nat.add_sub_cancel_left]
    refine ⟨Nat.le_add_right _ _, ⟨_, List.getElem?_eq_getElem hk, hfound⟩, ?_⟩
    intro m line hm hline
    obtain ⟨hlength, rfl⟩ := List.getElem?_eq_some_iff.mp hline
    simpa using hbefore m hm
  · rintro ⟨hn, ⟨line, hline, hfound⟩, hbefore⟩
    obtain ⟨hlength, rfl⟩ := List.getElem?_eq_some_iff.mp hline
    refine ⟨n - c.bodyLine, ⟨hlength, hfound, fun m hm => ?_⟩, by omega⟩
    have hlt := Nat.lt_trans hm hlength
    simpa using hbefore m _ hm (List.getElem?_eq_getElem hlt)

end Runbook
