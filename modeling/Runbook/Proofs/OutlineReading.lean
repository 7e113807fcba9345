import Mathlib.Data.List.Infix
import Runbook.Proofs.LinePatterns
import Runbook.Proofs.OutlineLines
import Runbook.Proofs.SortedTables
import Runbook.Proofs.TextLines

/-!
The outline of a body, read without a state. The lines outside of fenced blocks are those that are
no fences and have an even number of fences before them. Each of them that a pattern matches makes
a reference or a heading, and the parameters of a reference are the run of parameter lines that
stands after it. The reader finds just these: the lines that it takes as parameters, or passes over
while it waits for them, say nothing when they are read by themselves.
-/

namespace Runbook.Document

open Text

/-- A line outside of fenced blocks, and the lines after it. -/
structure OutsideLine where
  number : Nat
  text : List Char
  following : List (List Char)

def fencesBefore (lines : List (List Char)) (k : Nat) : Nat := (lines.take k).countP isFence

/-- The line at `k`, unless it is a fence or stands behind a fence that opens a block. -/
def outsideAt? (lines : List (List Char)) (first k : Nat) : Option OutsideLine :=
  (lines[k]?).bind fun line =>
    if isFence line = false ∧ fencesBefore lines k % 2 = 0 then
      some ⟨first + k, line, lines.drop (k + 1)⟩
    else none

/-- The lines outside of fenced blocks, in order; the first line has the number `first`. -/
def outsideLines (lines : List (List Char)) (first : Nat) : List OutsideLine :=
  (List.range lines.length).filterMap (outsideAt? lines first)

/-- The fences that open a block: the first one, the third, and so on. -/
def openingFences (lines : List (List Char)) : List Nat :=
  (List.range lines.length).filter fun k =>
    (lines[k]?).any isFence && fencesBefore lines k % 2 == 0

/-- The entries of the parameter lines that a text begins with. -/
def entriesOf (lines : List (List Char)) : List (String × String) :=
  (lines.takeWhile fun line => (captures parameterPattern line).isSome).filterMap fun line =>
    ((captures parameterPattern line).bind keyValue?).map fun (key, value) =>
      (.ofList key, .ofList value)

/-- The entries after a line that gives a path: those behind a line `> Parameters:`, with nothing
but blank quotes in front of that. -/
def entriesAfter (following : List (List Char)) : List (String × String) :=
  match following.dropWhile fun line => (captures quoteMark line).isSome with
  | [] => []
  | line :: rest => if (captures parametersPattern line).isSome then entriesOf rest else []

namespace OutsideLine

def reference? (l : OutsideLine) : Option SubWorkflowReference :=
  match captures executePattern l.text with
  | some [path] =>
      if path = [] then none
      else some ⟨.ofList path, Table.ofList (entriesAfter l.following), l.number⟩
  | _ => none

def heading? (l : OutsideLine) : Option Heading :=
  match captures headingPattern l.text with
  | some [marks, text] => some ⟨marks.length, .ofList text, l.number⟩
  | _ => none

end OutsideLine

/-! A line is one thing only. -/

section Kinds

variable {line : List Char}

theorem isFence_of_quoted (h : (quoted? line).isSome = true) : isFence line = false := by
  unfold quoted? at h
  split at h
  · next rest hrest => simp [isFence, hrest, List.isPrefixOf]
  · cases h

theorem heading?_of_quoted (h : (quoted? line).isSome = true) : heading? line = none := by
  have hmark : line.takeWhile (· == '#') = [] := by
    cases line with
    | nil => rfl
    | cons c rest =>
      refine List.takeWhile_cons_of_neg fun hc => ?_
      obtain rfl : c = '#' := by simpa using hc
      have htrim : trimStart ('#' :: rest) = '#' :: rest := List.dropWhile_cons_of_neg (by decide)
      simp [quoted?, htrim] at h
  simp [heading?, hmark]

theorem executePath?_of_quoted {rest : List Char} (h : quoted? line = some rest)
    (hrest : rest.head? ≠ some 'E') : executePath? line = none := by
  have hnoLabel : stripPrefix? "Execute:".toList rest = none := by
    unfold stripPrefix?
    refine if_neg fun hstart => hrest ?_
    obtain ⟨tail, rfl⟩ := List.isPrefixOf_iff_prefix.mp hstart
    rfl
  simp only [executePath?, h, Option.bind_eq_bind, Option.bind_some]
  change (stripPrefix? "Execute:".toList rest).bind _ = none
  rw [hnoLabel]
  rfl

theorem isSome_quoted? {path : List Char} (h : executePath? line = some path) :
    (quoted? line).isSome = true := by
  unfold executePath? at h
  obtain ⟨rest, hquoted, -⟩ := Option.bind_eq_some_iff.mp h
  rw [hquoted, Option.isSome_some]

theorem isFence_of_executePath? {path : List Char} (h : executePath? line = some path) :
    isFence line = false :=
  isFence_of_quoted (isSome_quoted? h)

/-- A line that the reader takes or passes over after a reference. -/
structure Silent (line : List Char) : Prop where
  fence : isFence line = false
  execute : executePath? line = none
  heading : heading? line = none

theorem silent_of_quoted {rest : List Char} (h : quoted? line = some rest)
    (hrest : rest.head? ≠ some 'E') : Silent line where
  fence := isFence_of_quoted (h ▸ rfl)
  execute := executePath?_of_quoted h hrest
  heading := heading?_of_quoted (h ▸ rfl)

theorem silent_of_isBlankQuote (h : isBlankQuote line = true) : Silent line := by
  have hquoted : quoted? line = some [] := by simpa [isBlankQuote] using h
  exact silent_of_quoted hquoted (by simp)

theorem head?_of_stripPrefix? {c : Char} {word s rest : List Char}
    (h : stripPrefix? (c :: word) s = some rest) : s.head? = some c := by
  unfold stripPrefix? at h
  split at h
  · next hstart =>
    obtain ⟨tail, rfl⟩ := List.isPrefixOf_iff_prefix.mp hstart
    rfl
  · cases h

theorem silent_of_isParametersLine (h : isParametersLine line = true) : Silent line := by
  obtain ⟨after, hafter⟩ := Option.isSome_iff_exists.mp h
  obtain ⟨rest, hquoted, hrest⟩ := Option.bind_eq_some_iff.mp hafter
  have hhead : rest.head? = some 'P' := head?_of_stripPrefix? hrest
  exact silent_of_quoted hquoted (by simp [hhead])

theorem silent_of_parameter? {entry : List Char × List Char} (h : parameter? line = some entry) :
    Silent line := by
  unfold parameter? at h
  obtain ⟨rest, hquoted, h⟩ := Option.bind_eq_some_iff.mp h
  obtain ⟨after, hafter, -⟩ := Option.bind_eq_some_iff.mp h
  have hhead : rest.head? = some '-' := head?_of_stripPrefix? hafter
  exact silent_of_quoted hquoted (by simp [hhead])

end Kinds

/-! What the patterns give for one line. -/

section Lines

variable {line : List Char} {rest : List (List Char)}

theorem entriesOf_cons (hline : '\n' ∉ line) :
    entriesOf (line :: rest) = match parameter? line with
      | some (key, value) => (.ofList key, .ofList value) :: entriesOf rest
      | none => [] := by
  have hsome := isSome_parameterPattern hline
  have hentry := captures_parameterPattern hline
  unfold entriesOf
  cases hread : parameter? line with
  | none =>
    rw [hread, Option.isSome_none] at hsome
    rw [List.takeWhile_cons_of_neg (by simp [hsome])]
    rfl
  | some entry =>
    rw [hread, Option.isSome_some] at hsome
    rw [hread] at hentry
    rw [List.takeWhile_cons_of_pos (p := fun line => (captures parameterPattern line).isSome) hsome,
      List.filterMap_cons, hentry]
    rfl

theorem entriesAfter_cons (hline : '\n' ∉ line) :
    entriesAfter (line :: rest) =
      if isBlankQuote line then entriesAfter rest
      else if isParametersLine line then entriesOf rest else [] := by
  unfold entriesAfter
  rw [List.dropWhile_cons, captures_blankQuote]
  by_cases hblank : isBlankQuote line = true
  · rw [if_pos hblank, if_pos hblank]
  · rw [if_neg hblank, if_neg hblank]
    simp only [captures_parametersPattern hline]

theorem OutsideLine.reference?_eq (hline : '\n' ∉ line) (n : Nat) :
    OutsideLine.reference? ⟨n, line, rest⟩ = match executePath? line with
      | some [] | none => none
      | some path => some ⟨.ofList path, Table.ofList (entriesAfter rest), n⟩ := by
  unfold OutsideLine.reference?
  rw [captures_executePattern hline]
  cases executePath? line with
  | none => rfl
  | some path =>
    cases path with
    | nil => rfl
    | cons c path => rfl

theorem OutsideLine.heading?_eq (hline : '\n' ∉ line) (n : Nat) :
    OutsideLine.heading? ⟨n, line, rest⟩ =
      (Document.heading? line).map fun h => ⟨h.1, .ofList h.2, n⟩ := by
  unfold OutsideLine.heading?
  rw [captures_headingPattern hline]
  cases Document.heading? line with
  | none => rfl
  | some h => simp

end Lines

/-! The run of the reader. -/

namespace Scan

variable {s : Scan} {line : List Char} {rest : List (List Char)}

/-- What has been found, whatever state the reader is in. -/
def findings (s : Scan) : List Heading × List SubWorkflowReference × Nat :=
  (s.headings, s.references, s.codeBlocks)

/-- Gives the last reference more parameters. -/
def give (entries : List (String × String)) :
    List SubWorkflowReference → List SubWorkflowReference
  | [] => []
  | r :: references =>
      { r with parameters := entries.foldl (fun t entry => t.insert entry.1 entry.2) r.parameters }
        :: references

theorem give_nil (references : List SubWorkflowReference) : give [] references = references := by
  cases references <;> rfl

theorem addParameter_eq (s : Scan) (key value : List Char) :
    s.addParameter key value =
      { s with references := give [(.ofList key, .ofList value)] s.references } := by
  obtain ⟨rest, line, mode, fenced, codeBlocks, headings, references⟩ := s
  cases references <;> rfl

theorem give_give (first entries : List (String × String))
    (references : List SubWorkflowReference) :
    give entries (give first references) = give (first ++ entries) references := by
  cases references with
  | nil => rfl
  | cons r references => simp [give]

theorem finish_nil (h : s.rest = []) : s.finish = s := by rw [finish, if_pos h]

theorem finish_cons (h : s.rest = line :: rest) : s.finish = s.step.finish := by
  rw [finish, if_neg (by rw [h]; exact List.cons_ne_nil line rest)]

theorem step_inside (h : s.rest = line :: rest) (hfenced : s.fenced = true) :
    s.step = { s.advance with fenced := !isFence line } := by
  simp [step, h, hfenced]

theorem step_fence (h : s.rest = line :: rest) (hfenced : s.fenced = false)
    (hfence : isFence line = true) :
    s.step = { s.advance with
      fenced := true, codeBlocks := s.codeBlocks + 1, mode := .scanning } := by
  simp [step, h, hfenced, hfence]

theorem step_scanning (h : s.rest = line :: rest) (hfenced : s.fenced = false)
    (hfence : isFence line = false) (hmode : s.mode = .scanning) : s.step = s.readLine line := by
  simp [step, h, hfenced, hfence, hmode]

/-- Read by itself, a silent line leaves all as it was. -/
theorem step_silent (h : s.rest = line :: rest) (hfenced : s.fenced = false)
    (hmode : s.mode = .scanning) (hsilent : Silent line) : s.step = s.advance := by
  rw [step_scanning h hfenced hsilent.fence hmode, readLine, hsilent.execute, hsilent.heading]

/-- Where a line does not go on with parameters, the reader might as well have been scanning. -/
theorem finish_put_off (h : s.rest = line :: rest) (hfenced : s.fenced = false)
    (hstep : isFence line = false → s.step = { s with mode := .scanning }) :
    s.finish = ({ s with mode := .scanning } : Scan).finish := by
  by_cases hfence : isFence line = true
  · have hother : ({ s with mode := .scanning } : Scan).rest = line :: rest := h
    rw [finish_cons h, finish_cons hother, step_fence h hfenced hfence,
      step_fence hother hfenced hfence]
    rfl
  · rw [finish_cons h, hstep (Bool.not_eq_true _ ▸ hfence)]

/-- The state in which the reader has taken some parameters and looks for findings again. -/
def resume (s : Scan) (entries : List (String × String)) : Scan :=
  { s with mode := .scanning, references := give entries s.references }

/-- A run of parameter lines is taken whole. -/
theorem findings_parameters (hlines : ∀ line ∈ rest, '\n' ∉ line) (hrest : s.rest = rest)
    (hfenced : s.fenced = false) (hmode : s.mode = .parameters) (hreferences : s.references ≠ []) :
    s.finish.findings = (s.resume (entriesOf rest)).finish.findings := by
  induction rest generalizing s with
  | nil =>
    have hother : (s.resume (entriesOf [])).rest = [] := hrest
    rw [finish_nil hrest, finish_nil hother]
    simp [findings, resume, entriesOf, give_nil]
  | cons line rest ih =>
    obtain ⟨hline, hmore⟩ := List.forall_mem_cons.mp hlines
    cases hread : parameter? line with
    | none =>
      have hentries : entriesOf (line :: rest) = [] := by rw [entriesOf_cons hline, hread]
      have hput : s.finish = ({ s with mode := .scanning } : Scan).finish :=
        finish_put_off hrest hfenced fun hfence => by
          simp [step, hrest, hfenced, hfence, hmode, hread]
      rw [hput, hentries, resume, give_nil]
    | some entry =>
      obtain ⟨key, value⟩ := entry
      obtain ⟨r, references, hcons⟩ := List.exists_cons_of_ne_nil hreferences
      have hsilent := silent_of_parameter? hread
      have hstep : s.step = (s.addParameter key value).advance := by
        simp [step, hrest, hfenced, hsilent.fence, hmode, hread, hcons]
      have hnext : (s.addParameter key value).advance.rest = rest := by
        rw [rest_advance, rest_addParameter, hrest, List.tail_cons]
      have hafter := ih (s := (s.addParameter key value).advance) hmore hnext
        (by rw [addParameter_eq]; exact hfenced) (by rw [addParameter_eq]; exact hmode)
        (by rw [addParameter_eq]; simp [advance, hcons, give])
      have hother : (s.resume (entriesOf (line :: rest))).rest = line :: rest := hrest
      rw [finish_cons hrest, hstep, hafter, finish_cons hother,
        step_silent hother hfenced rfl hsilent, addParameter_eq, entriesOf_cons hline, hread]
      simp only [resume, advance, give_give]
      rfl

/-- While the reader waits, it passes over blank quotes, and a line `> Parameters:` starts a
run. -/
theorem findings_awaiting (hlines : ∀ line ∈ rest, '\n' ∉ line) (hrest : s.rest = rest)
    (hfenced : s.fenced = false) (hmode : s.mode = .awaiting) (hreferences : s.references ≠ []) :
    s.finish.findings = (s.resume (entriesAfter rest)).finish.findings := by
  induction rest generalizing s with
  | nil =>
    have hother : (s.resume (entriesAfter [])).rest = [] := hrest
    rw [finish_nil hrest, finish_nil hother]
    simp [findings, resume, entriesAfter, give_nil]
  | cons line rest ih =>
    obtain ⟨hline, hmore⟩ := List.forall_mem_cons.mp hlines
    have hnext : s.advance.rest = rest := by rw [rest_advance, hrest, List.tail_cons]
    have hother : (s.resume (entriesAfter (line :: rest))).rest = line :: rest := hrest
    by_cases hblank : isBlankQuote line = true
    · have hsilent := silent_of_isBlankQuote hblank
      have hstep : s.step = s.advance := by
        simp [step, hrest, hfenced, hsilent.fence, hmode, hblank]
      have hafter := ih (s := s.advance) hmore hnext hfenced hmode hreferences
      rw [finish_cons hrest, hstep, hafter, finish_cons hother,
        step_silent hother hfenced rfl hsilent, entriesAfter_cons hline, if_pos hblank]
      rfl
    · by_cases hheader : isParametersLine line = true
      · have hsilent := silent_of_isParametersLine hheader
        have hstep : s.step = { s.advance with mode := .parameters } := by
          simp [step, hrest, hfenced, hsilent.fence, hmode, hblank, hheader]
        have hafter := findings_parameters (s := { s.advance with mode := .parameters })
          hmore hnext hfenced rfl hreferences
        rw [finish_cons hrest, hstep, hafter, finish_cons hother,
          step_silent hother hfenced rfl hsilent, entriesAfter_cons hline, if_neg hblank,
          if_pos hheader]
        rfl
      · have hput : s.finish = ({ s with mode := .scanning } : Scan).finish :=
          finish_put_off hrest hfenced fun hfence => by
            simp [step, hrest, hfenced, hfence, hmode, hblank, hheader]
        rw [hput, entriesAfter_cons hline, if_neg hblank, if_neg hheader, resume, give_nil]

/-- The state behind a line that gives a path. -/
def await (s : Scan) (path : List Char) : Scan :=
  { s.advance with
    mode := .awaiting
    references := ⟨.ofList path, [], s.line⟩ :: s.references }

theorem readLine_path {path : List Char} (hpath : executePath? line = some path)
    (hne : path ≠ []) : s.readLine line = s.await path := by
  obtain ⟨c, tail, rfl⟩ := List.exists_cons_of_ne_nil hne
  simp only [readLine, hpath]
  rfl

end Scan

/-! The lines outside of fenced blocks, one after the other. -/

def outside : Bool → Nat → List (List Char) → List OutsideLine
  | _, _, [] => []
  | fenced, n, line :: rest =>
      if isFence line then outside (!fenced) (n + 1) rest
      else if fenced then outside fenced (n + 1) rest
      else ⟨n, line, rest⟩ :: outside fenced (n + 1) rest

def openings : Bool → List (List Char) → Nat
  | _, [] => 0
  | fenced, line :: rest =>
      if isFence line then openings (!fenced) rest + (if fenced then 0 else 1)
      else openings fenced rest

/-- The headings and the references of some lines outside, the last one first, and before them
those that were there already. -/
def foundIn (outside : List OutsideLine) (blocks : Nat) (s : Scan) :
    List Heading × List SubWorkflowReference × Nat :=
  ((outside.filterMap OutsideLine.heading?).reverse ++ s.headings,
    (outside.filterMap OutsideLine.reference?).reverse ++ s.references, s.codeBlocks + blocks)

section Run

variable {line : List Char} {rest : List (List Char)}

/-- What is found from some lines on by a reader that looks for findings there. -/
def FoundFrom (rest : List (List Char)) : Prop :=
  ∀ s : Scan, s.rest = rest → s.mode = .scanning →
    s.finish.findings = foundIn (outside s.fenced s.line rest) (openings s.fenced rest) s

/-- Read by itself, a line makes a reference, a heading, or nothing. -/
theorem FoundFrom.readLine (hnext : FoundFrom rest) {s : Scan} (hrest : s.rest = line :: rest)
    (hfenced : s.fenced = false) (hmode : s.mode = .scanning)
    (hlines : ∀ l ∈ line :: rest, '\n' ∉ l) :
    (s.readLine line).finish.findings =
      foundIn (⟨s.line, line, rest⟩ :: outside false (s.line + 1) rest)
        (openings false rest) s := by
  have hline : '\n' ∉ line := hlines line List.mem_cons_self
  have htail : s.advance.rest = rest := by rw [Scan.rest_advance, hrest, List.tail_cons]
  have hpass := hnext s.advance htail hmode
  have hreference : OutsideLine.reference? ⟨s.line, line, rest⟩ = _ :=
    OutsideLine.reference?_eq hline s.line
  have hheading : OutsideLine.heading? ⟨s.line, line, rest⟩ = _ :=
    OutsideLine.heading?_eq hline s.line
  cases hpath : executePath? line with
  | none =>
    rw [hpath] at hreference
    simp only [Scan.readLine, hpath]
    cases hread : heading? line with
    | none =>
      rw [hread] at hheading
      simp only [hpass, foundIn, List.filterMap_cons, hreference, hheading, Option.map_none]
      rw [← hfenced]
      rfl
    | some h =>
      rw [hread] at hheading
      have hfound := hnext { s.advance with
        headings := ⟨h.1, .ofList h.2, s.line⟩ :: s.headings } htail hmode
      rw [hfound]
      simp [foundIn, hreference, hheading, Scan.advance, hfenced]
  | some path =>
    rw [heading?_of_quoted (isSome_quoted? hpath), Option.map_none] at hheading
    rw [hpath] at hreference
    cases path with
    | nil =>
      simp only [Scan.readLine, hpath, hpass, foundIn, List.filterMap_cons, hreference, hheading]
      rw [← hfenced]
      rfl
    | cons c path =>
      have hwait := Scan.findings_awaiting (s := s.await (c :: path))
        (fun l hl => hlines l (List.mem_cons_of_mem line hl)) htail hfenced rfl
        (List.cons_ne_nil _ _)
      have hfound := hnext ((s.await (c :: path)).resume (entriesAfter rest)) htail rfl
      rw [Scan.readLine_path hpath (List.cons_ne_nil c path), hwait, hfound]
      simp [foundIn, hreference, hheading, Scan.resume, Scan.await, Scan.give, Scan.advance,
        hfenced, Table.ofList]

theorem foundFrom (hlines : ∀ line ∈ rest, '\n' ∉ line) : FoundFrom rest := by
  induction rest with
  | nil =>
    intro s hrest hmode
    rw [Scan.finish_nil hrest]
    simp [Scan.findings, foundIn, outside, openings]
  | cons line rest ih =>
    have hnext := ih fun l hl => hlines l (List.mem_cons_of_mem line hl)
    intro s hrest hmode
    have htail : s.advance.rest = rest := by rw [Scan.rest_advance, hrest, List.tail_cons]
    rw [Scan.finish_cons hrest]
    cases hfenced : s.fenced with
    | true =>
      have hfound := hnext { s.advance with fenced := !isFence line } htail hmode
      rw [Scan.step_inside hrest hfenced, hfound]
      by_cases hfence : isFence line = true
      · simp [outside, openings, hfence, foundIn, Scan.advance]
      · simp [outside, openings, hfence, foundIn, Scan.advance]
    | false =>
      by_cases hfence : isFence line = true
      · have hfound := hnext { s.advance with
          fenced := true, codeBlocks := s.codeBlocks + 1, mode := .scanning } htail rfl
        rw [Scan.step_fence hrest hfenced hfence, hfound]
        simp [outside, openings, hfence, foundIn, Scan.advance, Nat.add_assoc, Nat.add_comm 1]
      · rw [Scan.step_scanning hrest hfenced (Bool.not_eq_true _ ▸ hfence) hmode,
          hnext.readLine hrest hfenced hmode hlines]
        simp [outside, openings, hfence]

end Run

/-! The lines outside, and the fences that open a block, by their places. -/

section Places

variable {before rest : List (List Char)} {fenced : Bool}

theorem fencesBefore_append (before rest : List (List Char)) :
    fencesBefore (before ++ rest) before.length = before.countP isFence := by
  rw [fencesBefore, List.take_left]

theorem countP_snoc (before : List (List Char)) (line : List Char) :
    (before ++ [line]).countP isFence =
      before.countP isFence + if isFence line then 1 else 0 := by
  rw [List.countP_append, List.countP_singleton]

/-- A fence turns the inside of a block into the outside, and the other way round. -/
theorem fenced_snoc (hfenced : fenced = (before.countP isFence % 2 == 1)) (line : List Char) :
    (if isFence line then !fenced else fenced) =
      ((before ++ [line]).countP isFence % 2 == 1) := by
  rw [countP_snoc]
  by_cases hfence : isFence line = true
  · rw [if_pos hfence, if_pos hfence, hfenced]
    rcases Nat.mod_two_eq_zero_or_one (before.countP isFence) with hparity | hparity
    · simp [hparity, Nat.add_mod]
    · simp [hparity, Nat.add_mod]
  · rw [if_neg hfence, if_neg hfence, hfenced, Nat.add_zero]

theorem outside_eq (hfenced : fenced = (before.countP isFence % 2 == 1)) (first : Nat) :
    outside fenced (first + before.length) rest =
      (List.range' before.length rest.length).filterMap
        (outsideAt? (before ++ rest) first) := by
  induction rest generalizing before fenced with
  | nil => rfl
  | cons line rest ih =>
    have hnext := ih (fenced_snoc hfenced line)
    rw [List.length_append, List.length_singleton, List.append_assoc,
      List.singleton_append] at hnext
    have hplace : outsideAt? (before ++ line :: rest) first before.length =
        if isFence line = false ∧ before.countP isFence % 2 = 0 then
          some ⟨first + before.length, line, rest⟩ else none := by
      have hdrop : (before ++ line :: rest).drop (before.length + 1) = rest := by
        rw [List.drop_append, List.drop_eq_nil_of_le (Nat.le_succ _)]
        simp
      simp [outsideAt?, fencesBefore_append, hdrop]
    rw [List.length_cons, List.range'_succ, List.filterMap_cons, hplace, ← hnext, outside]
    by_cases hfence : isFence line = true
    · simp [hfence, Nat.add_assoc]
    · rcases Nat.mod_two_eq_zero_or_one (before.countP isFence) with hparity | hparity
      · simp [hfence, hfenced, hparity, Nat.add_assoc]
      · simp [hfence, hfenced, hparity, Nat.add_assoc]

theorem openings_eq (hfenced : fenced = (before.countP isFence % 2 == 1)) :
    openings fenced rest = ((List.range' before.length rest.length).filter fun k =>
      ((before ++ rest)[k]?).any isFence && fencesBefore (before ++ rest) k % 2 == 0).length := by
  induction rest generalizing before fenced with
  | nil => rfl
  | cons line rest ih =>
    have hnext := ih (fenced_snoc hfenced line)
    rw [List.length_append, List.length_singleton, List.append_assoc,
      List.singleton_append] at hnext
    rw [List.length_cons, List.range'_succ, List.filter_cons, fencesBefore_append, openings]
    by_cases hfence : isFence line = true
    · rw [if_pos hfence] at hnext
      rcases Nat.mod_two_eq_zero_or_one (before.countP isFence) with hparity | hparity
      · simp [hfence, hfenced, hparity] at hnext ⊢
        exact hnext
      · simp [hfence, hfenced, hparity] at hnext ⊢
        exact hnext
    · rw [if_neg hfence] at hnext
      simpa [hfence] using hnext

end Places

theorem outside_lines (body : List Char) (first : Nat) :
    outside false first (lines body) = outsideLines (lines body) first := by
  have hrange : outside false (first + [].length) (lines body) =
      (List.range' [].length (lines body).length).filterMap
        (outsideAt? ([] ++ lines body) first) := outside_eq (by rfl) first
  rwa [List.length_nil, Nat.add_zero, ← List.range_eq_range'] at hrange

theorem openings_lines (body : List Char) :
    openings false (lines body) = (openingFences (lines body)).length := by
  have hrange : openings false (lines body) =
      ((List.range' [].length (lines body).length).filter fun k =>
        (([] ++ lines body)[k]?).any isFence &&
          fencesBefore ([] ++ lines body) k % 2 == 0).length := openings_eq (by rfl)
  rwa [List.length_nil, ← List.range_eq_range'] at hrange

/-- What the reader finds in a body, with the last line first. -/
theorem findings_scan (body : List Char) (first : Nat) :
    (scan body first).findings =
      (((outsideLines (lines body) first).filterMap OutsideLine.heading?).reverse,
        ((outsideLines (lines body) first).filterMap OutsideLine.reference?).reverse,
        (openingFences (lines body)).length) := by
  have hall : FoundFrom (lines body) := foundFrom fun _ => not_mem_lines
  have hfound := hall (Scan.start (lines body) first) rfl rfl
  rw [scan, hfound]
  simp only [foundIn, Scan.start, List.append_nil, Nat.zero_add, outside_lines, openings_lines]

/-- A reference with the last of two values for one key, and none within the block. -/
example : (outsideLines (lines ("> Execute: a\n>\n> Parameters:\n> - k: \"1\"\n> - k: 2\n" ++
    "~~~\n> Execute: b\n~~~").toList) 7).filterMap OutsideLine.reference? =
      [⟨"a", [("k", "2")], 7⟩] := by decide +kernel

end Runbook.Document
