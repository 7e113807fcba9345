import Runbook.Proofs.OutlineLines
import Runbook.Proofs.ParameterReferences
import Runbook.Proofs.PatternMatching
import Runbook.Proofs.TextLines

/-!
The search for references to parameters. It goes from the left, tries a pattern that is looser than
the form of a reference at every place, goes on behind what that has matched, and sorts out by a
second pattern which of the matches have a name between their braces. Since braces cannot stand
between braces, no match hides another one: what is found is every name that stands in the text in
double braces. No name crosses the end of a line, so that the lines of a text have the same names.
-/

namespace Runbook

namespace Document

open Text

/-- Two opening braces, a text without braces, and two closing ones. -/
def tokenPattern : List Piece :=
  [one '\x7b', one '\x7b', ⟨fun c => !isBrace c, 0, none, false, true⟩, one '\x7d', one '\x7d']

/-- The form of a name: a letter or an underscore, and then also digits, dots and hyphens. -/
def namePattern : List Piece :=
  [⟨fun c => c.isAlpha || c == '_', 1, some 1, false, false⟩,
    ⟨fun c => c.isAlphanum || c == '_' || c == '.' || c == '-', 0, none, false, false⟩]

/-- The texts that the search finds in double braces, one behind the other. -/
def tokens (s : List Char) : List (List Char) := (allCaptures tokenPattern s).flatten

theorem captures_namePattern (s : List Char) :
    (captures namePattern s).isSome = isParameterName s := by
  cases s with
  | nil => rfl
  | cons c rest =>
    rw [namePattern, captures_single_cons, captures_all, isParameterName]
    by_cases hfirst : (c.isAlpha || c == '_') = true
    · rw [if_pos hfirst, hfirst, Bool.true_and]
      split
      · next hrest => rw [hrest, Option.isSome_some]
      · next hrest => rw [Bool.eq_false_iff.mpr hrest, Option.isSome_none]
    · rw [if_neg hfirst, Bool.eq_false_iff.mpr hfirst, Bool.false_and, Option.isSome_none]

/-- The pattern matches where something stands in double braces, and takes just that. -/
theorem capturesFront_tokenPattern {s : List Char} {found : List (List Char)} :
    capturesFront tokenPattern s = some found ↔ ∃ inner after,
      (∀ c ∈ inner, isBrace c = false) ∧ s = token inner ++ after ∧ found = [inner, after] := by
  have hbrace : (!isBrace '\x7d') = false := rfl
  show captures (one '\x7b' :: one '\x7b' :: ⟨fun c => !isBrace c, 0, none, false, true⟩ ::
    one '\x7d' :: one '\x7d' :: [remainder]) s = some found ↔ _
  constructor
  · intro h
    obtain ⟨second, rfl, hsecond⟩ := captures_one_eq_some_iff.mp h
    obtain ⟨run, rfl, hrun⟩ := captures_one_eq_some_iff.mp hsecond
    obtain ⟨inner, last, more, hinner, rfl, hlast, rfl⟩ :=
      (captures_run_one_eq_some_iff hbrace).mp hrun
    obtain ⟨after, rfl, hafter⟩ := captures_one_eq_some_iff.mp hlast
    obtain rfl := Option.some.inj ((captures_remainder after).symm.trans hafter)
    exact ⟨inner, after, fun c hc => by simpa using hinner c hc, by simp [token], rfl⟩
  · rintro ⟨inner, after, hinner, rfl, rfl⟩
    have hshape : token inner ++ after =
        '\x7b' :: '\x7b' :: (inner ++ '\x7d' :: '\x7d' :: after) := by simp [token]
    rw [hshape, captures_one_cons, if_pos rfl, captures_one_cons, if_pos rfl,
      captures_run_one_eq_some_iff hbrace]
    refine ⟨inner, '\x7d' :: after, [after], fun c hc => by simp [hinner c hc], rfl, ?_, rfl⟩
    rw [captures_one_cons, if_pos rfl, captures_remainder]

theorem braced?_eq_none {s : List Char} (h : capturesFront tokenPattern s = none) :
    braced? s = none := by
  rw [Option.eq_none_iff_forall_ne_some] at h ⊢
  intro inner hinner
  obtain ⟨hplain, after, hs⟩ := braced?_eq_some_iff.mp hinner
  exact h _ (capturesFront_tokenPattern.mpr ⟨inner, after, hplain, hs.symm, rfl⟩)

theorem parameterNames_cons_of_none {c : Char} {rest : List Char}
    (h : braced? (c :: rest) = none) : parameterNames (c :: rest) = parameterNames rest := by
  rw [parameterNames, h]

/-- No reference begins in front of an opening brace. -/
theorem parameterNames_append {front : List Char} (hfront : '\x7b' ∉ front) (s : List Char) :
    parameterNames (front ++ s) = parameterNames s := by
  induction front with
  | nil => rfl
  | cons c front ih =>
    obtain ⟨hc, hmore⟩ := not_or.mp (mt List.mem_cons.mpr hfront)
    have hnone : braced? (c :: (front ++ s)) = none := by
      unfold braced?
      split
      · next h => exact absurd (List.cons.inj h).1 (Ne.symm hc)
      · rfl
    rw [List.cons_append, parameterNames_cons_of_none hnone, ih hmore]

/-- Within double braces no other reference begins. -/
theorem parameterNames_token {inner : List Char} (hplain : ∀ c ∈ inner, isBrace c = false)
    (after : List Char) :
    parameterNames (token inner ++ after) =
      if isParameterName inner then inner :: parameterNames after else parameterNames after := by
  have hread : braced? (token inner ++ after) = some inner :=
    braced?_eq_some_iff.mpr ⟨hplain, List.prefix_append _ _⟩
  have hopen : '\x7b' ∉ inner ++ ['\x7d', '\x7d'] := by
    intro h
    rcases List.mem_append.mp h with hmem | hmem
    · simpa [isBrace] using hplain _ hmem
    · simp at hmem
  have hsecond : braced? ('\x7b' :: (inner ++ ['\x7d', '\x7d'] ++ after)) = none := by
    unfold braced?
    split
    · next rest h =>
      have hhead : inner ++ ['\x7d', '\x7d'] ++ after = '\x7b' :: rest := (List.cons.inj h).2
      cases inner with
      | nil => simp at hhead
      | cons c inner =>
        obtain rfl : c = '\x7b' := (List.cons.inj hhead).1
        exact absurd List.mem_cons_self hopen
    · rfl
  have hbehind : parameterNames ('\x7b' :: (inner ++ ['\x7d', '\x7d'] ++ after)) =
      parameterNames after := by
    rw [parameterNames_cons_of_none hsecond, parameterNames_append hopen]
  have hshape : token inner ++ after =
      '\x7b' :: '\x7b' :: (inner ++ ['\x7d', '\x7d'] ++ after) := rfl
  rw [hshape] at hread ⊢
  rw [parameterNames, hread]
  simp only [hbehind]

/-- The names among what the search finds are those that are read at every single place. -/
theorem filter_tokens (s : List Char) :
    (tokens s).filter (fun inner => (captures namePattern inner).isSome) = parameterNames s := by
  induction hlength : s.length using Nat.strong_induction_on generalizing s with
  | h n ih =>
    subst hlength
    cases hfront : capturesFront tokenPattern s with
    | none =>
      cases s with
      | nil => simp [tokens, allCaptures, parameterNames]
      | cons c rest =>
        rw [tokens, allCaptures_miss hfront, parameterNames_cons_of_none (braced?_eq_none hfront)]
        exact ih rest.length (Nat.lt_succ_self _) rest rfl
    | some found =>
      obtain ⟨inner, after, hplain, rfl, rfl⟩ := capturesFront_tokenPattern.mp hfront
      have hshorter : after.length < (token inner ++ after).length := by
        simp only [token, List.length_append, List.length_cons]
        omega
      have hnext := ih after.length hshorter after rfl
      have hmatch : allCaptures tokenPattern (token inner ++ after) =
          [inner] :: allCaptures tokenPattern after := allCaptures_match hfront hshorter
      rw [tokens, hmatch, List.flatten_cons, List.singleton_append, List.filter_cons,
        captures_namePattern, parameterNames_token hplain, ← hnext]
      rfl

/-- A name stands in a text in double braces when it does so in one of its lines. -/
theorem token_infix_iff_lines {name : List Char} (hname : isParameterName name = true)
    (s : List Char) : token name <:+: s ↔ ∃ line ∈ lines s, token name <:+: line := by
  have hreturn : (token name).getLast? ≠ some '\r' := by simp [getLast?_token]
  exact infix_iff_lines (lineFeed_not_mem_token hname) (token_ne_nil name) hreturn

end Document

open Document

/-- The first line that has a name in double braces is that of its first reference. -/
theorem Content.parameterLine?_eq (c : Content) (name : String) :
    c.parameterLine? name =
      if isParameterName name.toList = true then
        ((Text.lines c.body.toList).findIdx? fun line => token name.toList <:+: line).map
          (c.bodyLine + ·)
      else none := by
  unfold parameterLine?
  by_cases hname : isParameterName name.toList = true
  · have hline : ∀ line, (Document.parameterReferences line).contains name =
        decide (token name.toList <:+: line) := by
      intro line
      rw [Bool.eq_iff_iff, contains_parameterReferences, decide_eq_true_eq]
      exact and_iff_right hname
    simp only [hline, if_pos hname]
  · have hnone : ∀ line, (Document.parameterReferences line).contains name = false := by
      intro line
      rw [Bool.eq_false_iff, ne_eq, contains_parameterReferences]
      exact fun h => hname h.1
    have hfind : (Text.lines c.body.toList).findIdx?
        (fun line => (Document.parameterReferences line).contains name) = none :=
      List.findIdx?_eq_none_iff.mpr fun line _ => hnone line
    rw [hfind, if_neg hname, Option.map_none]

/-- A name has a line in a body when the body refers to it. -/
theorem Content.isSome_parameterLine? (body : String) (first : Nat) (name : String) :
    ((ofBody body first).parameterLine? name).isSome =
      (ofBody body first).parameterReferences.contains name := by
  have hcontains : (ofBody body first).parameterReferences.contains name = true ↔ _ :=
    contains_parameterReferences
  rw [parameterLine?_eq, Bool.eq_iff_iff, hcontains]
  by_cases hname : isParameterName name.toList = true
  · rw [if_pos hname, Option.isSome_map, List.findIdx?_isSome, and_iff_right hname,
      token_infix_iff_lines hname]
    simp [ofBody]
  · simp [hname]

/-- The names that are referred to in a text are those that stand in it in double braces, and the
search from the left finds all of them; in a body, a name has a line when it is referred to, and
that is the first one with the name in double braces. -/
theorem references_found (text : List Char) (body : String) (first : Nat) (name : String) :
    ((parameterReferences text).contains name = true ↔
        (captures namePattern name.toList).isSome = true ∧ token name.toList <:+: text) ∧
      parameterReferences text = .ofList
        (((tokens text).filter fun inner => (captures namePattern inner).isSome).map .ofList) ∧
      (((Content.ofBody body first).parameterLine? name).isSome =
        (Content.ofBody body first).parameterReferences.contains name) ∧
      (Content.ofBody body first).parameterLine? name =
        if (Content.ofBody body first).parameterReferences.contains name = true then
          ((Text.lines body.toList).findIdx? fun line => token name.toList <:+: line).map
            (max first 1 + ·)
        else none := by
  have hsome := Content.isSome_parameterLine? body first name
  refine ⟨?_, ?_, hsome, ?_⟩
  · rw [captures_namePattern]
    exact contains_parameterReferences
  · rw [filter_tokens]
    rfl
  · by_cases hfound : (Content.ofBody body first).parameterReferences.contains name = true
    · have hname : isParameterName name.toList = true :=
        (contains_parameterReferences.mp hfound).1
      rw [if_pos hfound, Content.parameterLine?_eq, if_pos hname]
      rfl
    · rw [if_neg hfound, ← Option.isNone_iff_eq_none, ← Option.not_isSome, hsome]
      simpa using hfound

end Runbook
