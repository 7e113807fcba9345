import Runbook.Store.File

/-!
The names of snapshot files stand for run ids. A name leads back to the id it was made from,
and the name of a temporary file is never that of a snapshot.
-/

namespace Runbook

namespace RunId

theorem check_eq_ok_iff {id : String} : check id = .ok () ↔ isValid id = true := by
  unfold check isValid
  cases problem? id <;> simp

theorem check_ok_or_error (id : String) :
    check id = .ok () ∨ ∃ reason, check id = .error (.invalidRunId id reason) := by
  unfold check
  cases problem? id with
  | none => exact Or.inl rfl
  | some reason => exact Or.inr ⟨reason, rfl⟩

end RunId

namespace Path

theorem stripSuffix?_eq_some_iff {ending s t : String} :
    stripSuffix? ending s = some t ↔ s = t ++ ending := by
  unfold stripSuffix?
  constructor
  · intro h
    split at h
    · next hs =>
      obtain ⟨front, hfront⟩ := List.isSuffixOf_iff_suffix.mp hs
      have hlen : s.length - ending.length = front.length := by
        rw [← String.length_toList, ← String.length_toList, ← hfront, List.length_append]
        omega
      rw [hlen, ← hfront, List.take_left] at h
      obtain rfl : String.ofList front = t := Option.some.inj h
      apply String.toList_inj.mp
      rw [String.toList_append, String.toList_ofList, hfront]
    · simp at h
  · rintro rfl
    have hlen : (t ++ ending).length - ending.length = t.toList.length := by
      rw [String.length_append, String.length_toList]
      omega
    have hends : (t ++ ending).toList = t.toList ++ ending.toList := String.toList_append
    rw [hlen, hends, if_pos (List.isSuffixOf_iff_suffix.mpr (List.suffix_append _ _)),
      List.take_left, String.ofList_toList]

end Path

namespace Snapshot

theorem fileName_injective {a b : String} (h : fileName a = fileName b) : a = b := by
  have hstrip : Path.stripSuffix? ".json" (fileName b) = some a :=
    Path.stripSuffix?_eq_some_iff.mpr h.symm
  rw [Path.stripSuffix?_eq_some_iff.mpr (rfl : fileName b = b ++ ".json")] at hstrip
  exact (Option.some.inj hstrip).symm

/-- A file is the snapshot of a run exactly when it has the run's name and the id is allowed. -/
theorem runIdOf?_eq_some_iff {name id : String} :
    runIdOf? name = some id ↔ name = fileName id ∧ RunId.isValid id = true := by
  unfold runIdOf?
  rw [Option.filter_eq_some_iff, Path.stripSuffix?_eq_some_iff]
  rfl

theorem runIdOf?_fileName {id : String} (h : RunId.isValid id = true) :
    runIdOf? (fileName id) = some id := runIdOf?_eq_some_iff.mpr ⟨rfl, h⟩

/-- The last letters of a snapshot's name and of a temporary file's name differ. -/
theorem tempName_ne_fileName (a b : String) : tempName a ≠ fileName b := by
  intro h
  have hlast := congrArg (fun s => s.toList.getLast?) h
  simp [tempName, fileName, String.toList_append] at hlast

/-- The file holds the snapshot of some run. -/
def NamesSnapshot (name : String) : Prop :=
  ∃ runId, RunId.check runId = .ok () ∧ name = fileName runId

/-- The file is one that the snapshot of some run is written to. -/
def NamesTemporary (name : String) : Prop :=
  ∃ runId, RunId.check runId = .ok () ∧ name = tempName runId

theorem isSome_runIdOf?_iff {name : String} :
    (runIdOf? name).isSome = true ↔ NamesSnapshot name := by
  rw [Option.isSome_iff_exists, NamesSnapshot]
  apply exists_congr
  intro runId
  rw [runIdOf?_eq_some_iff, RunId.check_eq_ok_iff, and_comm]

theorem isTempName_iff {name : String} : isTempName name = true ↔ NamesTemporary name := by
  unfold isTempName
  rw [Option.isSome_iff_exists, NamesTemporary]
  apply exists_congr
  intro runId
  rw [Option.bind_eq_some_iff, RunId.check_eq_ok_iff]
  constructor
  · rintro ⟨stem, hstem, hid⟩
    obtain ⟨rfl, hvalid⟩ := runIdOf?_eq_some_iff.mp hid
    exact ⟨hvalid, Path.stripSuffix?_eq_some_iff.mp hstem⟩
  · rintro ⟨hvalid, rfl⟩
    exact ⟨fileName runId, Path.stripSuffix?_eq_some_iff.mpr rfl, runIdOf?_fileName hvalid⟩

end Snapshot

end Runbook
