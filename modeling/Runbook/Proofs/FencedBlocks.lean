import Runbook.Proofs.OutlineFindings

/-!
Fenced blocks in the sense of the text format: a block is opened by a run of three or more marks,
and closed by a line of as many of the same mark and nothing else. The reader of a body takes every
line that begins with three marks for an end of the block that it is in. The two agree on a line
when an even number of such lines stand within blocks in front of it; behind an odd number of them
the reader takes the inside of a block for its outside, and the other way round.
-/

namespace Runbook

namespace Document

open Text

/-- The line that has opened a block: its mark, and how many of them. -/
structure Fence where
  mark : Char
  length : Nat
  isMark : mark = '`' ∨ mark = '~'
  three_le : 3 ≤ length

/-- The fence that a line makes which stands outside of blocks. -/
def fenceOf? (line : List Char) : Option Fence :=
  match trimStart line with
  | [] => none
  | c :: rest =>
      let length := ((c :: rest).takeWhile (· == c)).length
      if h : (c = '`' ∨ c = '~') ∧ 3 ≤ length then some ⟨c, length, h.1, h.2⟩ else none

/-- The line has the marks that close a block, at least as many as have opened it. -/
def Fence.closedBy (f : Fence) (line : List Char) : Bool :=
  (trim line).all (· == f.mark) && f.length ≤ (trim line).length

/-- The block that is open behind a line. -/
def blockBehind (block : Option Fence) (line : List Char) : Option Fence :=
  match block with
  | none => fenceOf? line
  | some f => if f.closedBy line then none else some f

/-- The block that is open in front of the line at `k`. -/
def blockAt (lines : List (List Char)) (k : Nat) : Option Fence :=
  (lines.take k).foldl blockBehind none

/-- The line at `k` stands within a block, and neither opens nor closes one. -/
def inBlock (lines : List (List Char)) (k : Nat) : Bool :=
  (lines[k]?).any fun line => (blockAt lines k).any fun f => !f.closedBy line

/-- The line at `k` has no part in a block. -/
def outOfBlocks (lines : List (List Char)) (k : Nat) : Bool :=
  (lines[k]?).any fun line => (blockAt lines k).isNone && (fenceOf? line).isNone

/-- The line at `k` begins with three marks but stands within a block, which it does not close. -/
def isStray (lines : List (List Char)) (k : Nat) : Bool :=
  inBlock lines k && (lines[k]?).any isFence

def straysBefore (lines : List (List Char)) (k : Nat) : Nat :=
  (List.range k).countP (isStray lines)

section Marks

variable {line : List Char}

theorem le_run_iff {c : Char} {n : Nat} {s : List Char} :
    n ≤ (s.takeWhile (· == c)).length ↔ List.replicate n c <+: s := by
  induction n generalizing s with
  | zero => simp
  | succ n ih =>
    cases s with
    | nil => simp
    | cons d s =>
      by_cases hd : d = c
      · subst hd
        rw [List.takeWhile_cons_of_pos (p := (· == d)) (beq_self_eq_true d), List.length_cons,
          Nat.add_le_add_iff_right, ih, List.replicate_succ, List.cons_prefix_cons]
        exact (and_iff_right rfl).symm
      · have hne : ¬ (d == c) = true := by simpa using hd
        rw [List.takeWhile_cons_of_neg (p := (· == c)) hne, List.replicate_succ,
          List.cons_prefix_cons]
        simp [Ne.symm hd]

theorem isFence_iff : isFence line = true ↔
    List.replicate 3 '`' <+: trimStart line ∨ List.replicate 3 '~' <+: trimStart line := by
  rw [isFence, Bool.or_eq_true, List.isPrefixOf_iff_prefix, List.isPrefixOf_iff_prefix]
  rfl

/-- Outside of blocks the reader knows a fence when it stands before one. -/
theorem isSome_fenceOf? (line : List Char) : (fenceOf? line).isSome = isFence line := by
  rw [Bool.eq_iff_iff, isFence_iff]
  unfold fenceOf?
  cases htrim : trimStart line with
  | nil => simp
  | cons c rest =>
    have hmark : ∀ m : Char, List.replicate 3 m <+: c :: rest ↔
        c = m ∧ 3 ≤ ((c :: rest).takeWhile (· == c)).length := by
      intro m
      constructor
      · intro h
        obtain rfl : m = c := (List.cons_prefix_cons.mp h).1
        exact ⟨rfl, le_run_iff.mpr h⟩
      · rintro ⟨rfl, h⟩
        exact le_run_iff.mp h
    rw [hmark, hmark, ← or_and_right]
    dsimp only
    split
    · next h => exact iff_of_true rfl h
    · next h => exact iff_of_false (by simp) h

/-- A line that closes a block is a fence for the reader, too. -/
theorem Fence.isFence_of_closedBy {f : Fence} (h : f.closedBy line = true) :
    isFence line = true := by
  obtain ⟨hall, hlength⟩ := (Bool.and_eq_true _ _).mp h
  have hthree : 3 ≤ (trim line).length := Nat.le_trans f.three_le (of_decide_eq_true hlength)
  have hrun : trim line = List.replicate (trim line).length f.mark :=
    List.eq_replicate_iff.mpr ⟨rfl, fun c hc => by simpa using List.all_eq_true.mp hall c hc⟩
  have hmarks : List.replicate 3 f.mark <+: trim line := by
    rw [hrun, ← Nat.add_sub_of_le hthree, List.replicate_add]
    exact List.prefix_append _ _
  have hstart : List.replicate 3 f.mark <+: trimStart line :=
    hmarks.trans (List.rdropWhile_prefix isBlank _)
  rw [isFence_iff]
  rcases f.isMark with hmark | hmark
  · exact .inl (hmark ▸ hstart)
  · exact .inr (hmark ▸ hstart)

end Marks

section Parity

variable {lines : List (List Char)} {k : Nat} {line : List Char}

theorem blockAt_succ (h : lines[k]? = some line) :
    blockAt lines (k + 1) = blockBehind (blockAt lines k) line := by
  rw [blockAt, List.take_add_one, h, Option.toList_some, List.foldl_append]
  rfl

theorem fencesBefore_succ (h : lines[k]? = some line) :
    fencesBefore lines (k + 1) = fencesBefore lines k + (isFence line).toNat := by
  rw [fencesBefore, List.take_add_one, h, Option.toList_some, countP_snoc]
  cases isFence line <;> rfl

theorem straysBefore_succ (lines : List (List Char)) (k : Nat) :
    straysBefore lines (k + 1) = straysBefore lines k + (isStray lines k).toNat := by
  rw [straysBefore, List.range_succ, List.countP_append, List.countP_singleton]
  cases isStray lines k <;> rfl

/-- Each fence opens or closes a block, or is a stray. -/
theorem fence_step (h : lines[k]? = some line) :
    ((blockAt lines k).isSome.toNat + (isFence line).toNat) % 2 =
      ((blockAt lines (k + 1)).isSome.toNat + (isStray lines k).toNat) % 2 := by
  rw [blockAt_succ h]
  cases hblock : blockAt lines k with
  | none =>
    have hstray : isStray lines k = false := by simp [isStray, inBlock, h, hblock]
    rw [hstray, blockBehind, isSome_fenceOf?, Nat.add_comm]
    rfl
  | some f =>
    by_cases hclosed : f.closedBy line = true
    · have hstray : isStray lines k = false := by simp [isStray, inBlock, h, hblock, hclosed]
      rw [hstray, blockBehind, if_pos hclosed, f.isFence_of_closedBy hclosed]
      simp
    · have hstray : isStray lines k = isFence line := by
        simp [isStray, inBlock, h, hblock, hclosed]
      rw [hstray, blockBehind, if_neg hclosed]

/-- The reader and the blocks differ by the strays: each of them ends or opens a block for the
reader alone. -/
theorem fencesBefore_parity (hk : k ≤ lines.length) :
    fencesBefore lines k % 2 =
      ((blockAt lines k).isSome.toNat + straysBefore lines k) % 2 := by
  induction k with
  | zero => rfl
  | succ k ih =>
    have hline : lines[k]? = some lines[k] := List.getElem?_eq_getElem hk
    have hbefore := ih (Nat.le_of_succ_le hk)
    have hstep := fence_step hline
    rw [fencesBefore_succ hline, straysBefore_succ]
    omega

end Parity

/-! A line that makes a finding is no fence. -/

section Kinds

variable {line : List Char}

theorem isFence_of_executePattern {path : List Char} (hline : '\n' ∉ line)
    (h : captures executePattern line = some [path]) : isFence line = false := by
  rw [captures_executePattern hline] at h
  obtain ⟨found, hfound, -⟩ := Option.map_eq_some_iff.mp h
  exact isFence_of_executePath? hfound

theorem isFence_of_headingPattern {found : List (List Char)} (hline : '\n' ∉ line)
    (h : captures headingPattern line = some found) : isFence line = false := by
  rw [captures_headingPattern hline] at h
  obtain ⟨⟨level, text⟩, hheading, -⟩ := Option.map_eq_some_iff.mp h
  cases line with
  | nil => simp [heading?] at hheading
  | cons c rest =>
    have hmark : c = '#' := by
      by_contra hc
      have hnone : (c :: rest).takeWhile (· == '#') = [] :=
        List.takeWhile_cons_of_neg (by simpa using hc)
      simp [heading?, hnone] at hheading
    subst hmark
    have htrim : trimStart ('#' :: rest) = '#' :: rest := List.dropWhile_cons_of_neg (by decide)
    simp [isFence, htrim, List.isPrefixOf]

end Kinds

end Document

open Document

namespace Content

/-- A finding names the line with this number. -/
def FoundAt (c : Content) (number : Nat) : Prop :=
  (∃ r ∈ c.subWorkflowReferences, r.line = number) ∨ ∃ h ∈ c.headings, h.line = number

/-- What the line says is among the findings: the path of an Execute line, or a heading. -/
def ReadAt (c : Content) (number : Nat) (line : List Char) : Prop :=
  (∀ path, path ≠ [] → captures executePattern line = some [path] →
      ∃ r ∈ c.subWorkflowReferences, r.line = number ∧ r.path = .ofList path) ∧
    ∀ marks text, captures headingPattern line = some [marks, text] →
      ⟨marks.length, .ofList text, number⟩ ∈ c.headings

variable {body : String} {first k : Nat} {line : List Char}

/-- Nothing is found behind an odd number of fences. -/
theorem not_foundAt (hfences : fencesBefore (Text.lines body.toList) k % 2 = 1) :
    ¬ (ofBody body first).FoundAt (max first 1 + k) := by
  have hnone : ∀ j l, outsideAt? (Text.lines body.toList) (max first 1) j = some l →
      l.number ≠ max first 1 + k := by
    intro j l hj hnumber
    obtain ⟨line, -, -, heven, rfl⟩ := outsideAt?_eq_some_iff.mp hj
    obtain rfl : j = k := Nat.add_left_cancel hnumber
    omega
  rintro (⟨r, hr, hnumber⟩ | ⟨h, hh, hnumber⟩)
  · obtain ⟨j, l, hj, hl⟩ := mem_subWorkflowReferences.mp hr
    obtain ⟨path, -, -, rfl⟩ := reference?_eq_some_iff.mp hl
    exact hnone j l hj hnumber
  · obtain ⟨j, l, hj, hl⟩ := mem_headings.mp hh
    obtain ⟨marks, text, -, rfl⟩ := heading?_eq_some_iff.mp hl
    exact hnone j l hj hnumber

/-- Behind an even number of fences everything that a line says is found. -/
theorem readAt (hline : (Text.lines body.toList)[k]? = some line)
    (hfences : fencesBefore (Text.lines body.toList) k % 2 = 0) :
    (ofBody body first).ReadAt (max first 1 + k) line := by
  have hfree : '\n' ∉ line := Text.not_mem_lines (List.mem_of_getElem? hline)
  have hread : isFence line = false → ∃ l : OutsideLine,
      outsideAt? (Text.lines body.toList) (max first 1) k = some l ∧ l.text = line ∧
        l.number = max first 1 + k := fun hfence =>
    ⟨_, outsideAt?_eq_some_iff.mpr ⟨line, hline, hfence, hfences, rfl⟩, rfl, rfl⟩
  constructor
  · intro path hne hpath
    obtain ⟨l, hl, htext, hnumber⟩ := hread (isFence_of_executePattern hfree hpath)
    have hreference := reference?_eq_some_iff.mpr ⟨path, htext ▸ hpath, hne, rfl⟩
    exact ⟨_, mem_subWorkflowReferences.mpr ⟨k, l, hl, hreference⟩, hnumber, rfl⟩
  · intro marks text hheading
    obtain ⟨l, hl, htext, hnumber⟩ := hread (isFence_of_headingPattern hfree hheading)
    have hgiven := heading?_eq_some_iff.mpr ⟨marks, text, htext ▸ hheading, rfl⟩
    exact hnumber ▸ mem_headings.mpr ⟨k, l, hl, hgiven⟩

theorem fences_of_inBlock (hline : (Text.lines body.toList)[k]? = some line)
    (h : inBlock (Text.lines body.toList) k = true) :
    fencesBefore (Text.lines body.toList) k % 2 =
      (1 + straysBefore (Text.lines body.toList) k) % 2 := by
  have hlength := (List.getElem?_eq_some_iff.mp hline).1
  rw [fencesBefore_parity (Nat.le_of_lt hlength)]
  rw [inBlock, hline, Option.any_some] at h
  have hblock : (blockAt (Text.lines body.toList) k).isSome = true := by
    cases hopen : blockAt (Text.lines body.toList) k with
    | none => simp [hopen] at h
    | some f => rfl
  rw [hblock, Bool.toNat_true]

theorem fences_of_outOfBlocks (hline : (Text.lines body.toList)[k]? = some line)
    (h : outOfBlocks (Text.lines body.toList) k = true) :
    fencesBefore (Text.lines body.toList) k % 2 =
      straysBefore (Text.lines body.toList) k % 2 := by
  have hlength := (List.getElem?_eq_some_iff.mp hline).1
  rw [fencesBefore_parity (Nat.le_of_lt hlength)]
  rw [outOfBlocks, hline, Option.any_some, Bool.and_eq_true, Option.isNone_iff_eq_none] at h
  rw [h.1, Option.isSome_none, Bool.toNat_false, Nat.zero_add]

/-- Where an even number of strays stand in front of a line, it is read if it has no part in a
block, and not read if it stands within one; behind an odd number of strays it is the other way
round. -/
theorem fenced_lines_unread (hline : (Text.lines body.toList)[k]? = some line) (first : Nat) :
    (straysBefore (Text.lines body.toList) k % 2 = 0 →
      (inBlock (Text.lines body.toList) k = true →
        ¬ (ofBody body first).FoundAt (max first 1 + k)) ∧
      (outOfBlocks (Text.lines body.toList) k = true →
        (ofBody body first).ReadAt (max first 1 + k) line)) ∧
    (straysBefore (Text.lines body.toList) k % 2 = 1 →
      (inBlock (Text.lines body.toList) k = true →
        (ofBody body first).ReadAt (max first 1 + k) line) ∧
      (outOfBlocks (Text.lines body.toList) k = true →
        ¬ (ofBody body first).FoundAt (max first 1 + k))) := by
  refine ⟨fun hstrays => ⟨fun h => not_foundAt ?_, fun h => readAt hline ?_⟩,
    fun hstrays => ⟨fun h => readAt hline ?_, fun h => not_foundAt ?_⟩⟩
  · rw [fences_of_inBlock hline h]
    omega
  · rw [fences_of_outOfBlocks hline h]
    exact hstrays
  · rw [fences_of_inBlock hline h]
    omega
  · rw [fences_of_outOfBlocks hline h]
    exact hstrays

/-- A block of four marks with one of three marks within it. -/
def nested : String :=
  "````md\n```\n> Execute: ./first.md\n```\n> Execute: ./second.md\n````\n# Title"

theorem fenced_lines_unread_of_nested :
    ((Text.lines nested.toList)[4]? = some "> Execute: ./second.md".toList ∧
      straysBefore (Text.lines nested.toList) 4 % 2 = 0 ∧
      inBlock (Text.lines nested.toList) 4 = true ∧ ¬ (ofBody nested 1).FoundAt 5) ∧
    ((Text.lines nested.toList)[6]? = some "# Title".toList ∧
      straysBefore (Text.lines nested.toList) 6 % 2 = 0 ∧
      outOfBlocks (Text.lines nested.toList) 6 = true ∧
      (ofBody nested 1).ReadAt 7 "# Title".toList) := by
  have hsecond : (Text.lines nested.toList)[4]? = some "> Execute: ./second.md".toList := by
    decide +kernel
  have htitle : (Text.lines nested.toList)[6]? = some "# Title".toList := by decide +kernel
  have hinside : straysBefore (Text.lines nested.toList) 4 % 2 = 0 ∧
      inBlock (Text.lines nested.toList) 4 = true := by decide +kernel
  have houtside : straysBefore (Text.lines nested.toList) 6 % 2 = 0 ∧
      outOfBlocks (Text.lines nested.toList) 6 = true := by decide +kernel
  have hunread := fenced_lines_unread hsecond 1
  have hread := fenced_lines_unread htitle 1
  exact ⟨⟨hsecond, hinside.1, hinside.2, (hunread.1 hinside.1).1 hinside.2⟩,
    ⟨htitle, houtside.1, houtside.2, (hread.1 houtside.1).2 houtside.2⟩⟩

/-- An example within a block is found behind a shorter fence. -/
theorem example_within_block_found :
    inBlock (Text.lines nested.toList) 2 = true ∧
      (ofBody nested 1).subWorkflowReferences = [⟨"./first.md", [], 3⟩] := by
  decide +kernel

end Content

end Runbook
