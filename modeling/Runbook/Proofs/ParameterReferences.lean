import Mathlib.Data.List.Infix
import Runbook.Document.Reference

/-!
What counts as a reference to a parameter. A name is referred to exactly when it can be the name
of a parameter and stands somewhere in the text in double braces.
-/

namespace Runbook.Document

/-- A name as it is written in a text that refers to it. -/
def token (name : List Char) : List Char :=
  '\x7b' :: '\x7b' :: (name ++ ['\x7d', '\x7d'])

theorem nameCharacter_of_isParameterName {name : List Char} (h : isParameterName name = true) :
    ∀ c ∈ name, (c.isAlphanum || c == '_' || c == '.' || c == '-') = true := by
  cases name with
  | nil => simp
  | cons first rest =>
    obtain ⟨hfirst, hrest⟩ := (Bool.and_eq_true _ _).mp h
    refine List.forall_mem_cons.mpr ⟨?_, List.all_eq_true.mp hrest⟩
    simp only [Bool.or_eq_true] at hfirst ⊢
    rcases hfirst with halpha | hunderscore
    · exact .inl (.inl (.inl (by simp [Char.isAlphanum, halpha])))
    · exact .inl (.inl (.inr hunderscore))

theorem isBrace_false_of_isParameterName {name : List Char} (h : isParameterName name = true) :
    ∀ c ∈ name, isBrace c = false := by
  intro c hc
  have hname := nameCharacter_of_isParameterName h c hc
  by_contra hbrace
  rw [Bool.not_eq_false, isBrace, Bool.or_eq_true, beq_iff_eq, beq_iff_eq] at hbrace
  rcases hbrace with rfl | rfl
  · exact absurd hname (by decide)
  · exact absurd hname (by decide)

theorem token_ne_nil (name : List Char) : token name ≠ [] := List.cons_ne_nil _ _

theorem getLast?_token (name : List Char) : (token name).getLast? = some '\x7d' := by
  have hshape : token name = '\x7b' :: '\x7b' :: (name ++ ['\x7d']) ++ ['\x7d'] := by simp [token]
  rw [hshape, List.getLast?_concat]

/-- A reference stands within one line. -/
theorem lineFeed_not_mem_token {name : List Char} (h : isParameterName name = true) :
    '\n' ∉ token name := by
  have hfree : '\n' ∉ name := fun hmem =>
    absurd (nameCharacter_of_isParameterName h '\n' hmem) (by decide)
  simp [token, hfree]

/-- What is read in braces at the front of a text is what stands there. -/
theorem braced?_eq_some_iff {s name : List Char} :
    braced? s = some name ↔ (∀ c ∈ name, isBrace c = false) ∧ token name <+: s := by
  constructor
  · intro h
    unfold braced? at h
    split at h
    · next rest =>
      split at h
      · next after hafter =>
        obtain rfl := Option.some.inj h
        refine ⟨fun c hc => ?_, after, ?_⟩
        · simpa using List.all_eq_true.mp List.all_takeWhile c hc
        · have hrest := @List.takeWhile_append_dropWhile _ (fun c => !isBrace c) rest
          rw [hafter] at hrest
          simp only [token, List.cons_append, List.append_assoc, List.nil_append, hrest]
      · simp at h
    · simp at h
  · rintro ⟨hname, after, rfl⟩
    have hplain : ∀ c ∈ name, (!isBrace c) = true := by simpa using hname
    have htext : token name ++ after =
        '\x7b' :: '\x7b' :: (name ++ '\x7d' :: '\x7d' :: after) := by simp [token]
    have hclose : ∀ rest, ('\x7d' :: rest).takeWhile (fun c => !isBrace c) = [] := fun _ => rfl
    have hleft : ('\x7d' :: '\x7d' :: after).dropWhile (fun c => !isBrace c) =
        '\x7d' :: '\x7d' :: after := rfl
    rw [htext, braced?, List.dropWhile_append_of_pos hplain, hleft]
    simp only [List.takeWhile_append_of_pos hplain, hclose, List.append_nil]

theorem mem_parameterNames_iff {s name : List Char} :
    name ∈ parameterNames s ↔ isParameterName name = true ∧ token name <:+: s := by
  induction s with
  | nil => simp [parameterNames, token]
  | cons c rest ih =>
    rw [List.infix_cons_iff]
    have hbraced := @braced?_eq_some_iff (c :: rest)
    cases hread : braced? (c :: rest) with
    | none =>
      have hnone : isParameterName name = true → ¬ token name <+: c :: rest := by
        intro hname htoken
        have hsome := hbraced.mpr ⟨isBrace_false_of_isParameterName hname, htoken⟩
        simp [hread] at hsome
      simp only [parameterNames, hread, ih]
      grind
    | some found =>
      have hfound : isParameterName name = true → (token name <+: c :: rest ↔ name = found) := by
        intro hname
        have hiff := @hbraced name
        rw [hread, Option.some.injEq] at hiff
        exact ⟨fun h => (hiff.mpr ⟨isBrace_false_of_isParameterName hname, h⟩).symm,
          fun h => (hiff.mp h.symm).2⟩
      simp only [parameterNames, hread]
      by_cases hvalid : isParameterName found
      · rw [if_pos hvalid, List.mem_cons, ih]
        grind
      · rw [if_neg hvalid, ih]
        grind

/-- A name is referred to where it is well formed and stands in double braces. -/
theorem contains_parameterReferences {text : List Char} {name : String} :
    (parameterReferences text).contains name = true ↔
      isParameterName name.toList = true ∧ token name.toList <:+: text := by
  rw [List.contains_iff_mem, parameterReferences, Names.mem_ofList, ← mem_parameterNames_iff,
    List.mem_map]
  constructor
  · rintro ⟨found, hfound, rfl⟩
    rwa [String.toList_ofList]
  · intro h
    exact ⟨name.toList, h, String.ofList_toList⟩

end Runbook.Document
