import Runbook.Proofs.SnapshotNames
import Runbook.Proofs.WorkflowReading

/-!
The names that workflows without a declared name are shown by. A path is accepted whatever the case
of the letters in the suffix of its file, if the suffix is not the whole name; the name that is
shown loses only a suffix in small letters, and all of itself where it is nothing else. So the two
agree on the names that are written in small letters, but for one.
-/

namespace Runbook

namespace Text

theorem length_lowered (s : String) : (lowered s).length = s.length := by
  rw [lowered, String.length_ofList, lowerAscii, List.length_map, String.length_toList]

theorem lowered_append (s t : String) : lowered (s ++ t) = lowered s ++ lowered t := by
  rw [lowered, lowered, lowered, String.toList_append, lowerAscii, List.map_append,
    String.ofList_append]
  rfl

end Text

namespace Path

/-- The name ends in letters that stand for a suffix, whatever their case, and something stands in
front of them. -/
structure EndsIn (ending name stem written : String) : Prop where
  name_eq : name = stem ++ written
  stem_ne : stem ≠ ""
  folded : Text.lowered written = ending

/-- The name of a workflow file, cut in front of its suffix. The first suffix that fits counts. -/
def Cut (name stem written : String) : Prop :=
  EndsIn ".prompt.md" name stem written ∨
    (¬ ∃ stem written, EndsIn ".prompt.md" name stem written) ∧ EndsIn ".md" name stem written

variable {ending name stem written : String}

theorem EndsIn.length_eq (h : EndsIn ending name stem written) :
    written.length = ending.length := by
  rw [← h.folded, Text.length_lowered]

theorem endsIn_iff : (∃ stem written, EndsIn ending name stem written) ↔
    ending.length < name.length ∧ ending.toList <:+ (Text.lowered name).toList := by
  constructor
  · rintro ⟨stem, written, h⟩
    have hstem : 0 < stem.length := by
      rw [Nat.pos_iff_ne_zero]
      exact fun hzero => h.stem_ne (String.length_eq_zero_iff.mp hzero)
    constructor
    · rw [h.name_eq, String.length_append, h.length_eq]
      omega
    · rw [h.name_eq, Text.lowered_append, h.folded, String.toList_append]
      exact List.suffix_append _ _
  · rintro ⟨hlength, hends⟩
    rw [Text.lowered, String.toList_ofList, Text.lowerAscii] at hends
    obtain ⟨front, hfront⟩ := hends
    obtain ⟨stem, written, hname, hstem, hwritten⟩ := List.map_eq_append_iff.mp hfront.symm
    refine ⟨.ofList stem, .ofList written, ⟨?_, ?_, ?_⟩⟩
    · rw [← String.ofList_append, ← hname, String.ofList_toList]
    · intro hempty
      have hnil : stem = [] := String.ofList_eq_empty_iff.mp hempty
      have hsame : name.length = ending.length := by
        rw [← String.length_toList, ← String.length_toList, hname, ← hwritten, hnil,
          List.nil_append, List.length_map]
      omega
    · rw [Text.lowered, String.toList_ofList, Text.lowerAscii, hwritten, String.ofList_toList]

theorem isWorkflow_iff {path : String} : isWorkflow path = true ↔
    ∃ name stem written, fileName? path = some name ∧ Cut name stem written := by
  have hsuffix : ∀ ending name : String, (decide (ending.length < name.length) &&
      ending.toList.isSuffixOf (Text.lowered name).toList) = true ↔
        ∃ stem written, EndsIn ending name stem written := by
    intro ending name
    rw [endsIn_iff, Bool.and_eq_true, decide_eq_true_eq, List.isSuffixOf_iff_suffix]
  unfold isWorkflow
  cases fileName? path with
  | none => simp
  | some name =>
    simp only [workflowSuffixes, List.any_cons, List.any_nil, Bool.or_false, Bool.or_eq_true,
      hsuffix, Option.some.injEq]
    constructor
    · rintro hends
      by_cases hlong : ∃ stem written, EndsIn ".prompt.md" name stem written
      · obtain ⟨stem, written, h⟩ := hlong
        exact ⟨name, stem, written, rfl, Or.inl h⟩
      · obtain ⟨stem, written, h⟩ := hends.resolve_left hlong
        exact ⟨name, stem, written, rfl, Or.inr ⟨hlong, h⟩⟩
    · rintro ⟨_, stem, written, rfl, h | ⟨-, h⟩⟩
      · exact Or.inl ⟨stem, written, h⟩
      · exact Or.inr ⟨stem, written, h⟩

theorem EndsIn.unique {stem' written' : String} (h : EndsIn ending name stem written)
    (h' : EndsIn ending name stem' written') : stem = stem' ∧ written = written' := by
  have hname : stem.toList ++ written.toList = stem'.toList ++ written'.toList := by
    rw [← String.toList_append, ← String.toList_append, ← h.name_eq, ← h'.name_eq]
  have hlength : written.toList.length = written'.toList.length := by
    rw [String.length_toList, String.length_toList, h.length_eq, h'.length_eq]
  obtain ⟨hstem, hwritten⟩ := List.append_inj' hname hlength
  exact ⟨String.toList_inj.mp hstem, String.toList_inj.mp hwritten⟩

/-- There is one way to cut a name. -/
theorem Cut.unique {stem' written' : String} (h : Cut name stem written)
    (h' : Cut name stem' written') : stem = stem' ∧ written = written' := by
  rcases h with hlong | ⟨hshort, hmd⟩
  · rcases h' with hlong' | ⟨hshort', -⟩
    · exact hlong.unique hlong'
    · exact absurd ⟨stem, written, hlong⟩ hshort'
  · rcases h' with hlong' | ⟨-, hmd'⟩
    · exact absurd ⟨stem', written', hlong'⟩ hshort
    · exact hmd.unique hmd'

/-- A suffix in small letters is taken off, the longer one if possible. -/
theorem withoutSuffix_cases (name : String) :
    name = withoutSuffix name ++ ".prompt.md" ∨
    (¬ ∃ stem, name = stem ++ ".prompt.md") ∧ name = withoutSuffix name ++ ".md" ∨
    (¬ ∃ stem, name = stem ++ ".md") ∧ withoutSuffix name = name := by
  have hstrip : ∀ ending : String, (stripSuffix? ending name = none) ↔
      ¬ ∃ stem, name = stem ++ ending := by
    intro ending
    rw [Option.eq_none_iff_forall_ne_some, not_exists]
    exact forall_congr' fun stem => not_congr stripSuffix?_eq_some_iff
  simp only [withoutSuffix, workflowSuffixes, List.findSome?_cons, List.findSome?_nil]
  cases hlong : stripSuffix? ".prompt.md" name with
  | some stem => exact Or.inl (stripSuffix?_eq_some_iff.mp hlong)
  | none =>
    refine Or.inr ?_
    cases hshort : stripSuffix? ".md" name with
    | some stem => exact Or.inl ⟨(hstrip _).mp hlong, stripSuffix?_eq_some_iff.mp hshort⟩
    | none => exact Or.inr ⟨(hstrip _).mp hshort, rfl⟩

theorem Cut.name_eq (h : Cut name stem written) : name = stem ++ written :=
  h.elim EndsIn.name_eq fun h => h.2.name_eq

theorem Cut.stem_ne (h : Cut name stem written) : stem ≠ "" :=
  h.elim EndsIn.stem_ne fun h => h.2.stem_ne

theorem Cut.three_le (h : Cut name stem written) : 3 ≤ written.length := by
  rcases h with hlong | ⟨-, hshort⟩
  · exact hlong.length_eq ▸ (by decide : 3 ≤ ".prompt.md".length)
  · exact hshort.length_eq ▸ (by decide : 3 ≤ ".md".length)

theorem cut_of_prompt (hname : name = stem ++ ".prompt.md") (hstem : stem ≠ "") :
    Cut name stem ".prompt.md" :=
  Or.inl ⟨hname, hstem, by decide +kernel⟩

/-- The shorter of two ends of a text is the end of the longer one. -/
theorem exists_of_append_eq {a b t ending : String} (h : a ++ b = t ++ ending)
    (hlength : ending.length ≤ b.length) : ∃ rest, t = a ++ rest ∧ b = rest ++ ending := by
  have hlists := congrArg String.toList h
  rw [String.toList_append, String.toList_append] at hlists
  rcases List.append_eq_append_iff.mp hlists with ⟨rest, ht, hb⟩ | ⟨rest, ha, hending⟩
  · refine ⟨.ofList rest, String.toList_inj.mp ?_, String.toList_inj.mp ?_⟩
    · rw [String.toList_append, String.toList_ofList, ht]
    · rw [String.toList_append, String.toList_ofList, hb]
  · have hshort := congrArg List.length hending
    rw [List.length_append, String.length_toList, String.length_toList] at hshort
    have hrest : rest = [] := List.length_eq_zero_iff.mp (by omega)
    subst hrest
    rw [List.append_nil] at ha
    rw [List.nil_append] at hending
    refine ⟨"", ?_, ?_⟩
    · rw [String.append_empty, String.toList_inj.mp ha]
    · rw [String.empty_append, String.toList_inj.mp hending]

/-- What a name is cut in front of is not taken off but for a suffix in small letters. -/
theorem Cut.exists_rest (h : Cut name stem written) (hname : name ≠ ".prompt.md") :
    ∃ rest, withoutSuffix name = stem ++ rest ∧ (rest = "" ↔ written ∈ workflowSuffixes) := by
  have hprompt : ".prompt.md" = ".prompt" ++ ".md" := rfl
  have hmem : written ∈ workflowSuffixes ↔ written = ".prompt.md" ∨ written = ".md" := by
    simp [workflowSuffixes]
  rw [hmem]
  rcases withoutSuffix_cases name with hlong | ⟨hnone, hshort⟩ | ⟨hnone, hwhole⟩
  · have hstem : withoutSuffix name ≠ "" := by
      intro hempty
      rw [hempty, String.empty_append] at hlong
      exact hname hlong
    obtain ⟨hstem, hwritten⟩ := h.unique (cut_of_prompt hlong hstem)
    exact ⟨"", by rw [String.append_empty, hstem], by simp [hwritten]⟩
  · obtain ⟨rest, hrest, hwritten⟩ :=
      exists_of_append_eq (h.name_eq.symm.trans hshort) h.three_le
    refine ⟨rest, hrest, ?_, ?_⟩
    · rintro rfl
      exact Or.inr (by rw [hwritten, String.empty_append])
    · rintro (hsmall | hsmall)
      · exact absurd ⟨stem, hsmall ▸ h.name_eq⟩ hnone
      · exact String.append_eq_right_iff.mp (hwritten.symm.trans hsmall)
  · refine ⟨written, hwhole.trans h.name_eq, ?_, ?_⟩
    · rintro rfl
      exact absurd h.three_le (by decide)
    · rintro (hsmall | hsmall)
      · refine absurd ⟨stem ++ ".prompt", ?_⟩ hnone
        rw [String.append_assoc, ← hprompt, ← hsmall]
        exact h.name_eq
      · exact absurd ⟨stem, hsmall ▸ h.name_eq⟩ hnone

theorem withoutSuffix_prompt : withoutSuffix ".prompt.md" = "" := by decide +kernel

theorem Cut.withoutSuffix_eq_iff (h : Cut name stem written) :
    withoutSuffix name = stem ↔ written ∈ workflowSuffixes ∧ name ≠ ".prompt.md" := by
  by_cases hname : name = ".prompt.md"
  · have hempty : withoutSuffix name ≠ stem := by
      rw [hname, withoutSuffix_prompt]
      exact h.stem_ne.symm
    simp [hname, hname ▸ hempty]
  · obtain ⟨rest, hrest, hiff⟩ := h.exists_rest hname
    rw [hrest, String.append_eq_left_iff, hiff]
    simp [hname]

theorem Cut.withoutSuffix_eq_empty_iff (h : Cut name stem written) :
    withoutSuffix name = "" ↔ name = ".prompt.md" := by
  constructor
  · intro hempty
    apply Decidable.byContradiction
    intro hname
    obtain ⟨rest, hrest, -⟩ := h.exists_rest hname
    exact h.stem_ne (String.append_eq_empty_iff.mp (hrest.symm.trans hempty)).1
  · rintro rfl
    exact withoutSuffix_prompt

end Path

open Runbook.Path (Cut)

namespace Workflow

variable {text path : String} {w : Workflow}

theorem displayName_of_read {name : String} (hread : Workflow.read text (some path) = .ok w)
    (hblank : ∀ declared, w.header.name = some declared → Text.isBlankString declared = true)
    (hname : Path.fileName? path = some name) : w.displayName = Path.withoutSuffix name := by
  obtain ⟨-, header, -, rfl⟩ := read_eq_ok_iff.mp hread
  have hsource : (ofHeader text (some path) header).sourcePath.bind Path.fileName? = some name :=
    hname
  have hnone : (ofHeader text (some path) header).header.name.filter
      (fun name => !Text.isBlankString name) = none := by
    rw [Option.filter_eq_none_iff]
    intro declared hdeclared
    simp [hblank declared hdeclared]
  rw [displayName, hnone, hsource]

/-- A path is accepted if the name of its file can be cut in front of a suffix in letters of any
case, and then in one way only. A workflow without a name of its own is shown by what stands in
front of the cut exactly if the suffix is written in small letters and the name is not a suffix
itself; that name alone is shown as nothing. -/
theorem displayName_of_path (hread : Workflow.read text (some path) = .ok w)
    (hblank : ∀ declared, w.header.name = some declared → Text.isBlankString declared = true) :
    (checkFileType path = .ok () ↔
      ∃ name stem written, Path.fileName? path = some name ∧ Cut name stem written) ∧
    ∀ name stem written, Path.fileName? path = some name → Cut name stem written →
      (∀ stem' written', Cut name stem' written' → stem' = stem ∧ written' = written) ∧
      (w.displayName = stem ↔ written ∈ Path.workflowSuffixes ∧ name ≠ ".prompt.md") ∧
      (w.displayName = "" ↔ name = ".prompt.md") ∧
      (name ≠ ".prompt.md" → ∃ rest, w.displayName = stem ++ rest ∧
        (rest = "" ↔ written ∈ Path.workflowSuffixes)) := by
  refine ⟨?_, ?_⟩
  · rw [← Path.isWorkflow_iff, checkFileType]
    cases Path.isWorkflow path <;> simp
  · intro name stem written hname hcut
    rw [displayName_of_read hread hblank hname]
    exact ⟨fun _ _ h => h.unique hcut, hcut.withoutSuffix_eq_iff,
      hcut.withoutSuffix_eq_empty_iff, hcut.exists_rest⟩

theorem read_body (path : Option String) :
    Workflow.read "body" path = .ok (ofHeader "body" path .empty) :=
  read_eq_ok_iff.mpr ⟨by decide, .empty, rfl, rfl⟩

theorem displayName_of_path_review : ∃ w,
    Workflow.read "body" (some "flows/review.prompt.md") = .ok w ∧ w.displayName = "review" := by
  have hread := read_body (some "flows/review.prompt.md")
  have hblank : ∀ declared, (ofHeader "body" (some "flows/review.prompt.md") .empty).header.name =
      some declared → Text.isBlankString declared = true := by
    intro declared hdeclared
    cases hdeclared
  have hcut : Cut "review.prompt.md" "review" ".prompt.md" := Path.cut_of_prompt rfl (by decide)
  obtain ⟨-, hshown⟩ := displayName_of_path hread hblank
  obtain ⟨-, hstem, -, -⟩ := hshown _ _ _ rfl hcut
  exact ⟨_, hread, hstem.mpr ⟨by decide, by decide⟩⟩

/-- A suffix in capitals is accepted and stays, and the name of a hidden file is taken for a
suffix. -/
theorem displayName_keeps_capitals :
    checkFileType "dir/A.MD" = .ok () ∧ Cut "A.MD" "A" ".MD" ∧
    (∃ w, Workflow.read "body" (some "dir/A.MD") = .ok w ∧ w.header.name = none ∧
      w.displayName = "A.MD") ∧
    checkFileType ".prompt.md" = .ok () ∧
    ∃ w, Workflow.read "body" (some ".prompt.md") = .ok w ∧ w.header.name = none ∧
      w.displayName = "" := by
  have hshort : ¬ ∃ stem written, Path.EndsIn ".prompt.md" "A.MD" stem written := by
    rw [Path.endsIn_iff]
    decide +kernel
  have hcut : Cut "A.MD" "A" ".MD" := Or.inr ⟨hshort, by decide, by decide, by decide +kernel⟩
  have hcapitals : Path.isWorkflow "dir/A.MD" = true := by decide +kernel
  have hhidden : Path.isWorkflow ".prompt.md" = true := by decide +kernel
  exact ⟨if_pos hcapitals, hcut, ⟨_, read_body _, rfl, by decide +kernel⟩, if_pos hhidden,
    ⟨_, read_body _, rfl, by decide +kernel⟩⟩

end Workflow

end Runbook
