import Runbook.Proofs.SnapshotNames

/-!
The paths of snapshots. A run id consists of 1 to 128 letters, digits, hyphens and underscores, so
that the names of its files are single steps of a path. The files of two runs lie next to each other
in the folder of the store, and no two of them have the same path.
-/

namespace Runbook

namespace RunId

/-- The characters of run ids. -/
def IsPlain (c : Char) : Prop :=
  'A' ≤ c ∧ c ≤ 'Z' ∨ 'a' ≤ c ∧ c ≤ 'z' ∨ '0' ≤ c ∧ c ≤ '9' ∨ c = '-' ∨ c = '_'

theorem isAllowed_iff {c : Char} : isAllowed c = true ↔ IsPlain c := by
  unfold isAllowed Char.isAlphanum Char.isAlpha Char.isUpper Char.isLower Char.isDigit
  simp only [Bool.or_eq_true, Bool.and_eq_true, decide_eq_true_eq, beq_iff_eq, IsPlain,
    Char.le_def, or_assoc, ge_iff_le]

theorem IsPlain.utf8Size_eq {c : Char} (h : IsPlain c) : c.utf8Size = 1 := by
  rw [Char.utf8Size_eq_one_iff]
  rcases h with ⟨-, h⟩ | ⟨-, h⟩ | ⟨-, h⟩ | rfl | rfl
  · exact UInt32.le_trans h (by decide)
  · exact UInt32.le_trans h (by decide)
  · exact UInt32.le_trans h (by decide)
  · decide
  · decide

/-- Each character of an id takes one byte. -/
theorem utf8ByteSize_of_plain {s : List Char} (h : ∀ c ∈ s, IsPlain c) :
    (String.ofList s).utf8ByteSize = s.length := by
  induction s with
  | nil => rfl
  | cons c s ih =>
    rw [List.forall_mem_cons] at h
    rw [String.ofList_cons, String.utf8ByteSize_append, String.utf8ByteSize_singleton,
      h.1.utf8Size_eq, ih h.2, List.length_cons, Nat.add_comm]

/-- So its length is the same in bytes and in characters. -/
theorem check_eq_ok_iff_plain {id : String} : check id = .ok () ↔
    1 ≤ id.length ∧ id.length ≤ 128 ∧ ∀ c ∈ id.toList, IsPlain c := by
  have hsize : (∀ c ∈ id.toList, IsPlain c) → id.utf8ByteSize = id.length := by
    intro h
    rw [← String.length_toList, ← utf8ByteSize_of_plain h, String.ofList_toList]
  have hempty : id.isEmpty = true ↔ id.length = 0 := by
    rw [String.isEmpty_iff, String.length_eq_zero_iff]
  have hchars : (id.toList.find? fun c => !isAllowed c) = none ↔ ∀ c ∈ id.toList, IsPlain c := by
    rw [List.find?_eq_none]
    simp [← isAllowed_iff]
  rw [check_eq_ok_iff, isValid, problem?, Option.isNone_iff_eq_none]
  by_cases hnil : id.isEmpty = true
  · rw [if_pos hnil]
    have hzero := hempty.mp hnil
    simp [hzero]
  · rw [if_neg hnil]
    rw [hempty] at hnil
    by_cases hlong : maxLength < id.utf8ByteSize
    · rw [if_pos hlong]
      refine iff_of_false nofun fun h => ?_
      have hbytes := hsize h.2.2
      have hmax : maxLength = 128 := rfl
      omega
    · rw [if_neg hlong, Option.map_eq_none_iff, hchars]
      refine ⟨fun h => ⟨by omega, ?_, h⟩, fun h => h.2.2⟩
      have hbytes := hsize h
      have hmax : maxLength = 128 := rfl
      omega

end RunId

namespace Path

theorem splitSlash_ne_nil (s : List Char) : splitSlash s ≠ [] := by
  cases s with
  | nil => exact List.cons_ne_nil _ _
  | cons c s =>
    rw [splitSlash]
    split
    · exact List.cons_ne_nil _ _
    · split <;> exact List.cons_ne_nil _ _

theorem splitSlash_append (s t : List Char) :
    splitSlash (s ++ '/' :: t) = splitSlash s ++ splitSlash t := by
  induction s with
  | nil => simp [splitSlash]
  | cons c s ih =>
    rw [List.cons_append, splitSlash, splitSlash, ih]
    split
    · rfl
    · cases hparts : splitSlash s with
      | nil => exact absurd hparts (splitSlash_ne_nil s)
      | cons part parts => rfl

theorem splitSlash_of_not_mem {s : List Char} (h : '/' ∉ s) : splitSlash s = [s] := by
  induction s with
  | nil => rfl
  | cons c s ih =>
    rw [List.mem_cons, not_or] at h
    rw [splitSlash, if_neg (Ne.symm h.1), ih h.2]

/-- A name that is one step of a path. -/
structure IsStep (name : String) : Prop where
  no_slash : '/' ∉ name.toList
  ne_empty : name ≠ ""
  ne_dot : name ≠ "."

/-- The path of an entry of the folder that `dir` leads to. -/
structure IsChild (dir name path : String) : Prop where
  parts_eq : parts path = parts dir ++ [name]
  isAbsolute_eq : isAbsolute path = isAbsolute dir
  startsAtDot_eq : startsAtDot path = startsAtDot dir

section Join

variable {name : String}

theorem IsStep.isAbsolute_eq (h : IsStep name) : isAbsolute name = false := by
  unfold isAbsolute
  rw [beq_eq_false_iff_ne]
  exact fun hhead => h.no_slash (List.mem_of_head? hhead)

/-- The name is added to the pieces of the folder's path, at the place of an empty last one. -/
theorem splitSlash_join (dir : String) (h : IsStep name) :
    ∃ pieces, splitSlash (join dir name).toList = pieces ++ [name.toList] ∧
      (splitSlash dir.toList = pieces ∨ splitSlash dir.toList = pieces ++ [[]]) := by
  have hname := splitSlash_of_not_mem h.no_slash
  unfold join
  rw [h.isAbsolute_eq, Bool.or_false]
  by_cases hempty : dir.isEmpty = true
  · obtain rfl := String.isEmpty_iff.mp hempty
    exact ⟨[], hname, .inr rfl⟩
  rw [if_neg hempty]
  by_cases hslash : dir.toList.getLast? = some '/'
  · obtain ⟨front, hfront⟩ := List.getLast?_eq_some_iff.mp hslash
    refine ⟨splitSlash front, ?_, .inr ?_⟩
    · rw [if_pos hslash, String.toList_append, hfront, List.append_assoc]
      exact (splitSlash_append front name.toList).trans (by rw [hname])
    · rw [hfront]
      exact splitSlash_append front []
  · refine ⟨splitSlash dir.toList, ?_, .inl rfl⟩
    rw [if_neg hslash, String.toList_append, String.toList_append, List.append_assoc]
    exact (splitSlash_append dir.toList name.toList).trans (by rw [hname])

theorem isAbsolute_join (dir : String) (h : IsStep name) :
    isAbsolute (join dir name) = isAbsolute dir := by
  unfold join
  rw [h.isAbsolute_eq, Bool.or_false]
  by_cases hempty : dir.isEmpty = true
  · obtain rfl := String.isEmpty_iff.mp hempty
    exact h.isAbsolute_eq
  have hne : dir.toList ≠ [] := by
    intro hnil
    exact hempty (String.isEmpty_iff.mpr (String.toList_eq_nil_iff.mp hnil))
  obtain ⟨c, rest, hdir⟩ := List.exists_cons_of_ne_nil hne
  rw [if_neg hempty]
  unfold isAbsolute
  split
  · rw [String.toList_append, hdir]
    rfl
  · rw [String.toList_append, String.toList_append, hdir]
    rfl

theorem isChild_join (dir : String) (h : IsStep name) : IsChild dir name (join dir name) := by
  obtain ⟨pieces, hjoin, hdir⟩ := splitSlash_join dir h
  have hlist : name.toList ≠ [] := fun hnil => h.ne_empty (String.toList_eq_nil_iff.mp hnil)
  have hdot : name.toList ≠ ['.'] := fun heq => h.ne_dot (String.toList_inj.mp heq)
  refine ⟨?_, isAbsolute_join dir h, ?_⟩
  · unfold parts
    rcases hdir with hdir | hdir
    · rw [hjoin, hdir]
      simp [hlist, hdot]
    · rw [hjoin, hdir]
      simp [hlist, hdot]
  · unfold startsAtDot
    rw [hjoin]
    cases pieces with
    | nil =>
      rcases hdir with hdir | hdir
      · exact absurd hdir (splitSlash_ne_nil _)
      · rw [hdir]
        simpa using hdot
    | cons piece pieces =>
      rcases hdir with hdir | hdir
      · rw [hdir]
        rfl
      · rw [hdir]
        rfl

/-- Entries with different names have different paths, however they are written. -/
theorem same_of_isChild {dir other path path' : String} (h : IsChild dir name path)
    (h' : IsChild dir other path') (hne : name ≠ other) : same path path' = false := by
  have hparts : parts path ≠ parts path' := by
    rw [h.parts_eq, h'.parts_eq]
    intro heq
    exact hne (List.singleton_inj.mp (List.append_cancel_left heq))
  simp [same, hparts]

end Join

end Path

namespace Snapshot

/-- An id with an ending is one step of a path. -/
theorem isStep_append {id ending : String} (hid : RunId.check id = .ok ())
    (hslash : '/' ∉ ending.toList) (hlength : 2 ≤ ending.length) : Path.IsStep (id ++ ending) := by
  obtain ⟨-, -, hplain⟩ := RunId.check_eq_ok_iff_plain.mp hid
  have hlong : 2 ≤ (id ++ ending).length := by
    rw [String.length_append]
    omega
  refine ⟨?_, ?_, ?_⟩
  · rw [String.toList_append, List.mem_append, not_or]
    refine ⟨fun hmem => ?_, hslash⟩
    have hno : ¬ RunId.IsPlain '/' := by
      unfold RunId.IsPlain
      decide
    exact hno (hplain '/' hmem)
  · intro heq
    rw [heq] at hlong
    exact absurd hlong (by decide)
  · intro heq
    rw [heq] at hlong
    exact absurd hlong (by decide)

theorem isStep_fileName {id : String} (h : RunId.check id = .ok ()) :
    Path.IsStep (fileName id) := isStep_append h (by decide) (by decide)

theorem tempName_eq (id : String) : tempName id = id ++ ".json.tmp" := by
  rw [tempName, fileName, String.append_assoc]
  rfl

theorem isStep_tempName {id : String} (h : RunId.check id = .ok ()) :
    Path.IsStep (tempName id) := by
  rw [tempName_eq]
  exact isStep_append h (by decide) (by decide)

theorem tempName_injective {a b : String} (h : tempName a = tempName b) : a = b :=
  fileName_injective ((String.append_left_inj _).mp h)

/-- The names that are used for a run. -/
def names (id : String) : List String := [fileName id, tempName id]

theorem isStep_names {id : String} (h : RunId.check id = .ok ()) :
    ∀ name ∈ names id, Path.IsStep name := by
  simp only [names, List.forall_mem_cons]
  exact ⟨isStep_fileName h, isStep_tempName h, by simp⟩

/-- Two runs use four names. -/
theorem names_differ {a b : String} (h : a ≠ b) : (names a ++ names b).Pairwise (· ≠ ·) := by
  have hfile : fileName a ≠ fileName b := fun heq => h (fileName_injective heq)
  have htemp : tempName a ≠ tempName b := fun heq => h (tempName_injective heq)
  have hkind : ∀ a b, fileName a ≠ tempName b := fun a b => (tempName_ne_fileName b a).symm
  simp [names, hfile, htemp, hkind, tempName_ne_fileName]

end Snapshot

namespace FileStore

/-- The paths that are used for a run. -/
def paths (store : FileStore) (id : String) : List String :=
  (Snapshot.names id).map (Path.join store.dir)

/-- The names of files and the ids of runs stand for each other, and no name stands for a snapshot
and for a temporary file. The paths that are used for two runs lead to four entries of the store's
folder, however paths are written. -/
theorem names_code_run_ids :
    (∀ name id, Snapshot.runIdOf? name = some id ↔
      name = id ++ ".json" ∧ RunId.check id = .ok ()) ∧
    (∀ name, Snapshot.isTempName name = true ↔
      ∃ id, name = id ++ ".json.tmp" ∧ RunId.check id = .ok ()) ∧
    (∀ name, ¬ ((Snapshot.runIdOf? name).isSome = true ∧ Snapshot.isTempName name = true)) ∧
    (∀ id, RunId.check id = .ok () ↔
      1 ≤ id.length ∧ id.length ≤ 128 ∧ ∀ c ∈ id.toList, RunId.IsPlain c) ∧
    ∀ (store : FileStore) (a b : String), RunId.check a = .ok () → RunId.check b = .ok () →
      a ≠ b →
        store.path a ∈ store.paths a ∧
        (∀ name ∈ Snapshot.names a ++ Snapshot.names b,
          Path.IsChild store.dir name (Path.join store.dir name)) ∧
        (store.paths a ++ store.paths b).Pairwise fun path other =>
          Path.same path other = false := by
  refine ⟨?_, ?_, ?_, fun id => RunId.check_eq_ok_iff_plain, ?_⟩
  · intro name id
    rw [Snapshot.runIdOf?_eq_some_iff, RunId.check_eq_ok_iff]
    rfl
  · intro name
    rw [Snapshot.isTempName_iff, Snapshot.NamesTemporary]
    simp only [Snapshot.tempName_eq, and_comm]
  · rintro name ⟨hfile, htemp⟩
    obtain ⟨a, -, rfl⟩ := Snapshot.isSome_runIdOf?_iff.mp hfile
    obtain ⟨b, -, hname⟩ := Snapshot.isTempName_iff.mp htemp
    exact Snapshot.tempName_ne_fileName b a hname.symm
  · intro store a b ha hb hne
    have hchild : ∀ name ∈ Snapshot.names a ++ Snapshot.names b,
        Path.IsChild store.dir name (Path.join store.dir name) := by
      intro name hname
      rcases List.mem_append.mp hname with hmem | hmem
      · exact Path.isChild_join store.dir (Snapshot.isStep_names ha name hmem)
      · exact Path.isChild_join store.dir (Snapshot.isStep_names hb name hmem)
    refine ⟨List.mem_cons_self, hchild, ?_⟩
    rw [paths, paths, ← List.map_append, List.pairwise_map]
    refine (Snapshot.names_differ hne).imp_of_mem ?_
    intro name other hname hother hdiffer
    exact Path.same_of_isChild (hchild name hname) (hchild other hother) hdiffer

/-- Two runs whose ids differ in the case of a letter, in a folder whose path ends with a slash. -/
theorem names_code_run_ids_of_capital :
    let store : FileStore := ⟨"./state/", .absent, false⟩
    Snapshot.runIdOf? "Nightly-1.json" = some "Nightly-1" ∧
      Snapshot.isTempName "nightly-1.json.tmp" = true ∧
      store.path "nightly-1" = "./state/nightly-1.json" ∧
      (store.paths "nightly-1" ++ store.paths "Nightly-1").Pairwise fun path other =>
        Path.same path other = false := by
  have hsmall : RunId.check "nightly-1" = .ok () := RunId.check_eq_ok_iff.mpr (by decide)
  have hcapital : RunId.check "Nightly-1" = .ok () := RunId.check_eq_ok_iff.mpr (by decide)
  obtain ⟨hfile, htemp, -, -, hpaths⟩ := names_code_run_ids
  exact ⟨(hfile _ _).mpr ⟨by decide, hcapital⟩, (htemp _).mpr ⟨"nightly-1", by decide, hsmall⟩,
    by decide, (hpaths _ _ _ hsmall hcapital (by decide)).2.2⟩

end FileStore

end Runbook
