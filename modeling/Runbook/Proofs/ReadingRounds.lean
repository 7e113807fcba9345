import Runbook.Proofs.OutlineReading

/-!
How long the reader of a body takes. Each round of the reader passes the line in front, or puts
it off and looks at it once more while scanning. While scanning it passes every line, so that no
line is put off twice: `n` lines are read in at most `2 * n` rounds, whatever state the reader
starts in. Lines that each give a path take that many.
-/

namespace Runbook.Document.Scan

variable {s t : Scan} {line : List Char} {rest : List (List Char)} {n : Nat}

/-- `t` stands behind the line in front of `s`. -/
def Passes (s t : Scan) : Prop := t.rest = s.rest.tail ∧ t.line = s.line + 1

/-- The reader comes from `s` to `t` in `n` rounds: one for every step that it takes with a line in
front of it, until there is none. -/
inductive Rounds : Nat → Scan → Scan → Prop
  | stop (s : Scan) (hnone : s.rest = []) : Rounds 0 s s
  | round {n : Nat} {s t : Scan} (hsome : s.rest ≠ []) (hnext : Rounds n s.step t) :
      Rounds (n + 1) s t

/-- The number of rounds is determined by the state that the reader starts in. -/
theorem Rounds.unique {m : Nat} {u : Scan} (hrounds : Rounds n s t) (hother : Rounds m s u) :
    n = m ∧ t = u := by
  induction hrounds generalizing m with
  | stop s hnone =>
    cases hother with
    | stop => exact ⟨rfl, rfl⟩
    | round hsome => exact absurd hnone hsome
  | round hsome _ ih =>
    cases hother with
    | stop _ hnone => exact absurd hnone hsome
    | round _ hnext =>
      obtain ⟨rfl, rfl⟩ := ih hnext
      exact ⟨rfl, rfl⟩

/-- How many lines can still be put off: all that are left, but while scanning not the one in
front. -/
def deferrable (s : Scan) : Nat := s.rest.length - if s.mode = .scanning then 1 else 0

theorem line_addParameter (s : Scan) (key value : List Char) :
    (s.addParameter key value).line = s.line := by
  rw [addParameter_eq]

/-- What one step does with the line in front. -/
theorem passes_or_puts_off (hsome : s.rest ≠ []) :
    s.Passes s.step ∨ s.mode ≠ .scanning ∧ s.step = { s with mode := .scanning } := by
  obtain ⟨line, rest, hrest⟩ := List.exists_cons_of_ne_nil hsome
  have hmove := move_step hrest
  generalize s.step = t at hmove ⊢
  cases hmove with
  | pass fenced codeBlocks mode => exact .inl ⟨rfl, rfl⟩
  | reference path => exact .inl ⟨rfl, rfl⟩
  | heading level text => exact .inl ⟨rfl, rfl⟩
  | parameter key value =>
    refine .inl ⟨?_, ?_⟩
    · rw [rest_advance, rest_addParameter]
    · show (s.addParameter key value).line + 1 = s.line + 1
      rw [line_addParameter]
  | again _ _ hmode => exact .inr ⟨hmode, rfl⟩

theorem deferrable_le (s : Scan) : s.deferrable ≤ s.rest.length := Nat.sub_le _ _

theorem deferrable_scanning (hmode : s.mode = .scanning) :
    s.deferrable = s.rest.length - 1 := by
  rw [deferrable, if_pos hmode]

theorem deferrable_waiting (hmode : s.mode ≠ .scanning) : s.deferrable = s.rest.length := by
  rw [deferrable, if_neg hmode, Nat.sub_zero]

/-- A line that has been passed can no longer be put off. -/
theorem deferrable_passed (hpasses : s.Passes t) : t.deferrable ≤ s.deferrable := by
  have hlength : t.rest.length = s.rest.length - 1 := by rw [hpasses.1, List.length_tail]
  have hnext : t.deferrable ≤ t.rest.length := deferrable_le t
  by_cases hmode : s.mode = .scanning
  · rw [deferrable_scanning hmode]
    omega
  · rw [deferrable_waiting hmode]
    omega

/-- The reader takes one round for each line, and one more for each line that it puts off. -/
theorem exists_rounds (s : Scan) :
    ∃ k ≤ s.deferrable, Rounds (s.rest.length + k) s s.finish := by
  induction s using finish.induct with
  | case1 s hnone =>
    refine ⟨0, Nat.zero_le _, ?_⟩
    rw [finish_nil hnone, hnone]
    exact .stop s hnone
  | case2 s hsome ih =>
    obtain ⟨k, hk, hnext⟩ := ih
    have hpos : 0 < s.rest.length := List.length_pos_iff.mpr hsome
    have hfinish : s.finish = s.step.finish := by rw [finish, if_neg hsome]
    rw [hfinish]
    obtain hpasses | ⟨hmode, hstep⟩ := passes_or_puts_off hsome
    · have hlength : s.rest.length + k = s.step.rest.length + k + 1 := by
        rw [hpasses.1, List.length_tail]
        omega
      refine ⟨k, hk.trans (deferrable_passed hpasses), ?_⟩
      rw [hlength]
      exact .round hsome hnext
    · have hlength : s.step.rest.length = s.rest.length := by rw [hstep]
      have hscanning : s.step.mode = .scanning := by rw [hstep]
      rw [deferrable_scanning hscanning, hlength] at hk
      refine ⟨k + 1, ?_, ?_⟩
      · rw [deferrable_waiting hmode]
        omega
      · rw [hlength] at hnext
        exact .round hsome hnext

/-- From the start of a body one round less is enough, since its first line is never put off. -/
theorem exists_rounds_scan (body : List Char) (first : Nat) :
    ∃ n ≤ 2 * (Text.lines body).length - 1,
      Rounds n (start (Text.lines body) first) (scan body first) := by
  obtain ⟨k, hk, hrounds⟩ := exists_rounds (start (Text.lines body) first)
  rw [deferrable_scanning rfl] at hk
  refine ⟨(Text.lines body).length + k, ?_, hrounds⟩
  change k ≤ (Text.lines body).length - 1 at hk
  omega

/-- The reader ends in any state, after at most two rounds for each line that is left. A round that
does not pass the line in front only goes over to scanning, and while scanning every line is
passed. -/
theorem reading_ends (s : Scan) :
    (∃ n ≤ 2 * s.rest.length, Rounds n s s.finish) ∧
      (s.rest ≠ [] → ¬ s.Passes s.step → s.step = { s with mode := .scanning }) ∧
      (s.rest ≠ [] → s.mode = .scanning → s.Passes s.step) := by
  refine ⟨?_, ?_, ?_⟩
  · obtain ⟨k, hk, hrounds⟩ := exists_rounds s
    have hbound : k ≤ s.rest.length := hk.trans (deferrable_le s)
    exact ⟨s.rest.length + k, by omega, hrounds⟩
  · intro hsome hstays
    obtain hpasses | ⟨-, hstep⟩ := passes_or_puts_off hsome
    · exact absurd hpasses hstays
    · exact hstep
  · intro hsome hmode
    obtain hpasses | ⟨hwaiting, -⟩ := passes_or_puts_off hsome
    · exact hpasses
    · exact absurd hmode hwaiting

/-! Two rounds for each line are needed where every line gives a path. -/

/-- While the reader waits for parameters, it puts off a line that gives a path. -/
theorem step_put_off {path : List Char} (hrest : s.rest = line :: rest) (hfenced : s.fenced = false)
    (hmode : s.mode = .awaiting) (hpath : executePath? line = some path) :
    s.step = { s with mode := .scanning } := by
  have hblank : isBlankQuote line = false := by
    by_contra hblank
    have hsilent := silent_of_isBlankQuote (Bool.not_eq_false _ ▸ hblank)
    simp [hsilent.execute] at hpath
  have hheader : isParametersLine line = false := by
    by_contra hheader
    have hsilent := silent_of_isParametersLine (Bool.not_eq_false _ ▸ hheader)
    simp [hsilent.execute] at hpath
  simp [step, hrest, hfenced, isFence_of_executePath? hpath, hmode, hblank, hheader]

/-- While scanning, the reader takes the path of the line and waits for parameters. -/
theorem step_path {path : List Char} (hrest : s.rest = line :: rest) (hfenced : s.fenced = false)
    (hmode : s.mode = .scanning) (hpath : executePath? line = some path) (hne : path ≠ []) :
    s.step = s.await path := by
  rw [step_scanning hrest hfenced (isFence_of_executePath? hpath) hmode]
  exact readLine_path hpath hne

/-- The bound of two rounds for each line is reached: every line that gives a path is put off, and
then leaves the reader waiting again. -/
theorem rounds_of_executes (hlines : ∀ line ∈ rest, ∃ path ≠ [], executePath? line = some path)
    (hrest : s.rest = rest) (hfenced : s.fenced = false) (hmode : s.mode = .awaiting) :
    Rounds (2 * rest.length) s s.finish := by
  induction rest generalizing s with
  | nil =>
    rw [finish_nil hrest]
    exact .stop s hrest
  | cons line rest ih =>
    obtain ⟨⟨path, hne, hpath⟩, hmore⟩ := List.forall_mem_cons.mp hlines
    have hputOff := step_put_off hrest hfenced hmode hpath
    have hagain : s.step.rest = line :: rest := by rw [hputOff]; exact hrest
    have hstep := step_path hagain (by rw [hputOff]; exact hfenced) (by rw [hputOff]) hpath hne
    have hnext : s.step.step.rest = rest := by
      rw [hstep]
      show s.step.rest.tail = rest
      rw [hagain, List.tail_cons]
    have hrounds := ih hmore hnext (by rw [hstep, hputOff]; exact hfenced) (by rw [hstep]; rfl)
    rw [finish_cons hrest, finish_cons hagain]
    refine .round ?_ (.round ?_ hrounds)
    · rw [hrest]
      exact List.cons_ne_nil line rest
    · rw [hagain]
      exact List.cons_ne_nil line rest

end Runbook.Document.Scan
